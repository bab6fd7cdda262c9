import Mathlib.Algebra.Group.Nat.Defs
import Mathlib.Data.List.Chain
import Mathlib.Data.List.Induction

/-! # Finding and reading in C strings

Where one text occurs in another that holds a number, what `sscanf` reads of a text, and the
last entry of a table and the first of a chain of tests that match. -/

namespace WanManager.Text

variable {α β : Type}

/-! ## Occurrences -/

/-- The adjacent characters of `name` never go from `a` to a character of `p`, also when `a`
stands in front of it. -/
abbrev NeverAfter (p : α → Prop) (a : α) (name : List α) : Prop :=
  (a :: name).IsChain fun b c => b = a → ¬ p c

/-- A text cut where a stretch of `p` starts, right after `a`, cannot be such a name. -/
private theorem not_across {p : α → Prop} {a : α} {before n₁ n₂ : List α}
    (h : NeverAfter p a (n₁ ++ n₂)) (hne : n₂ ≠ []) (hp : ∀ c ∈ n₂.head?, p c)
    (hlast : before.getLast? = some a) (hsuf : n₁ <:+ before) : False := by
  obtain ⟨c, n₂, rfl⟩ := List.exists_cons_of_ne_nil hne
  have hlast : (a :: n₁).getLast? = some a := by
    rcases List.eq_nil_or_concat n₁ with rfl | ⟨m, x, rfl⟩
    · rfl
    · obtain ⟨s, rfl⟩ := hsuf
      have hx : x = a := by simpa using hlast
      rw [hx, List.concat_eq_append, ← List.cons_append, List.getLast?_append_of_ne_nil]
      · rfl
      · simp
  have hchain := (List.isChain_append.mp (show ((a :: n₁) ++ c :: n₂).IsChain _ from h)).2.2
  exact hchain a hlast c rfl rfl (hp c rfl)

/-- A name that never goes from the separator to a digit occurs on one side of a number. -/
theorem infix_around {p : α → Prop} {a : α} {name before digits after : List α}
    (hname : NeverAfter p a name) (hlast : before.getLast? = some a) (hne : digits ≠ [])
    (hdigits : ∀ c ∈ digits, p c) :
    name <:+: before ++ digits ++ after ↔ name <:+: before ∨ name <:+: after := by
  have hhead : ∀ {n rest}, n <:+: digits → n ++ rest = name → n = [] := by
    intro n rest hn hrest
    rcases n with _ | ⟨c, n⟩
    · rfl
    · subst hrest
      exact absurd (hdigits c (hn.subset (by simp))) ((List.isChain_cons_cons.mp hname).1 rfl)
  constructor
  · intro h
    obtain h | h | ⟨n₁, n₂, hn₁, -, rfl, hsuf, -⟩ := List.infix_append_iff_ne_nil.mp h
    · obtain h | h | ⟨n₁, n₂, -, hn₂, rfl, hsuf, hpre⟩ := List.infix_append_iff_ne_nil.mp h
      · exact .inl h
      · have hnil : name = [] := hhead h (List.append_nil name)
        exact .inr (hnil ▸ List.nil_infix)
      · have hp : ∀ c ∈ n₂.head?, p c := fun c hc =>
          hdigits c (hpre.subset (List.mem_of_mem_head? hc))
        exact (not_across hname hn₂ hp hlast hsuf).elim
    · exact .inr h
    · -- what the name has before the end of the number starts in the number or before it
      obtain h | ⟨m, rfl⟩ := List.suffix_or_suffix_of_suffix hsuf (List.suffix_append _ digits)
      · exact absurd (hhead h.isInfix rfl) hn₁
      · rw [List.append_assoc] at hname
        have hp : ∀ c ∈ (digits ++ n₂).head?, p c := by
          intro c hc
          rw [List.head?_append_of_ne_nil _ hne] at hc
          exact hdigits c (List.mem_of_mem_head? hc)
        have hm := List.suffix_append_self_iff.mp hsuf
        exact (not_across hname (by simp [hne]) hp hlast hm).elim
  · rintro (h | h)
    · exact (h.trans (List.prefix_append _ _).isInfix).trans (List.prefix_append _ _).isInfix
    · exact h.trans (List.suffix_append _ _).isInfix

/-- A name without the character between two texts occurs in one of them. -/
theorem infix_beside {a : α} {name before after : List α} (h : a ∉ name) :
    name <:+: before ++ a :: after ↔ name <:+: before ∨ name <:+: after := by
  constructor
  · intro hin
    obtain h' | h' | ⟨n₁, n₂, -, hn₂, rfl, -, hpre⟩ := List.infix_append_iff_ne_nil.mp hin
    · exact .inl h'
    · obtain hp | hs := List.infix_cons_iff.mp h'
      · rcases name with _ | ⟨c, name⟩
        · exact .inl List.nil_infix
        · have := (List.cons_prefix_cons.mp hp).1
          simp_all
      · exact .inr hs
    · obtain ⟨c, n₂, rfl⟩ := List.exists_cons_of_ne_nil hn₂
      have := (List.cons_prefix_cons.mp hpre).1
      simp_all
  · rintro (h' | h')
    · exact h'.trans (List.prefix_append _ _).isInfix
    · exact (h'.trans (List.suffix_cons a after).isInfix).trans (List.suffix_append _ _).isInfix

/-! ## Decimal numbers -/

/-- `isspace` in the C locale -/
def isBlank (c : Char) : Bool := c = ' ' ∨ 9 ≤ c.toNat ∧ c.toNat ≤ 13

/-- What `%d` prints of a number that is not negative. -/
abbrev decimal (n : Nat) : List Char := Nat.toDigits 10 n

theorem isDigit_decimal {n : Nat} : ∀ c ∈ decimal n, c.isDigit :=
  fun _ hc => Nat.isDigit_of_mem_toDigits (by decide) (by decide) hc

theorem repr_inj {m n : Nat} : m.repr = n.repr ↔ m = n := by
  refine ⟨fun h => ?_, fun h => h ▸ rfl⟩
  have hdigits := congrArg (fun s : String => Nat.ofDigitChars 10 s.toList 0) h
  simpa only [Nat.toList_repr, Nat.ofDigitChars_ten_toDigits] using hdigits

/-- What `strtol` makes of digits, cut to the 32 bits of an `int`. -/
def ofDigits (negative : Bool) (digits : List Char) : UInt32 :=
  let magnitude := Nat.ofDigitChars 10 digits 0
  if negative then 0 - UInt32.ofNat (min magnitude (2 ^ 63))
  else UInt32.ofNat (min magnitude (2 ^ 63 - 1))

theorem toNat_ofDigits {digits : List Char} (h : Nat.ofDigitChars 10 digits 0 < 2 ^ 32) :
    (ofDigits false digits).toNat = Nat.ofDigitChars 10 digits 0 := by
  have hmin : min (Nat.ofDigitChars 10 digits 0) (2 ^ 63 - 1) = Nat.ofDigitChars 10 digits 0 := by omega
  simp only [ofDigits, hmin]
  exact UInt32.toNat_ofNat_of_lt h

theorem ofDigits_decimal {n : Nat} (h : n < 2 ^ 32) :
    (ofDigits false (decimal n)).toNat = n := by
  rw [toNat_ofDigits, Nat.ofDigitChars_ten_toDigits]
  rwa [Nat.ofDigitChars_ten_toDigits]

/-- `%d`: blanks, a sign, then digits; `none` when there is no digit. -/
def scanInt (text : List Char) : Option (UInt32 × List Char) :=
  let text := text.dropWhile isBlank
  let (negative, text) := match text with
    | '-' :: rest => (true, rest)
    | '+' :: rest => (false, rest)
    | rest => (false, rest)
  let digits := text.takeWhile Char.isDigit
  if digits = [] then none else some (ofDigits negative digits, text.dropWhile Char.isDigit)

/-- `atoi` -/
def atoi (text : List Char) : UInt32 :=
  match scanInt text with
  | some (n, _) => n
  | none => 0

theorem not_isBlank_of_isDigit {c : Char} (h : c.isDigit) : ¬ isBlank c := by
  rw [Char.isDigit_iff_toNat] at h
  have hzero : '0'.toNat = 48 := rfl
  have hspace : c ≠ ' ' := by
    rintro rfl
    exact absurd h.1 (by decide)
  simp only [isBlank, decide_eq_true_eq, not_or]
  exact ⟨hspace, by omega⟩

/-- The digits of a number end where the text ends or goes on with something else. -/
theorem span_digits {digits rest : List Char} (hdigits : ∀ c ∈ digits, c.isDigit)
    (h : ∀ c ∈ rest.head?, ¬ c.isDigit) :
    (digits ++ rest).takeWhile Char.isDigit = digits ∧ (digits ++ rest).dropWhile Char.isDigit = rest := by
  rw [List.takeWhile_append_of_pos hdigits, List.dropWhile_append_of_pos hdigits]
  cases rest with
  | nil => simp
  | cons c rest =>
    have hc : ¬ c.isDigit := h c rfl
    rw [List.takeWhile_cons_of_neg hc, List.dropWhile_cons_of_neg hc, List.append_nil]
    exact ⟨rfl, rfl⟩

/-- Numbers in front of a dot can be told apart. -/
theorem decimal_dot_inj {m n : Nat} {s t : List Char}
    (h : decimal m ++ '.' :: s = decimal n ++ '.' :: t) : m = n := by
  have hdot : ∀ s : List Char, ∀ c ∈ ('.' :: s).head?, ¬ c.isDigit := by
    intro s c hc
    obtain rfl : '.' = c := by simpa using hc
    decide
  have htake := congrArg (List.takeWhile Char.isDigit) h
  rw [(span_digits isDigit_decimal (hdot s)).1, (span_digits isDigit_decimal (hdot t)).1] at htake
  have hnumber := congrArg (fun digits => Nat.ofDigitChars 10 digits 0) htake
  simpa only [Nat.ofDigitChars_ten_toDigits] using hnumber

theorem scanInt_digits {digits rest : List Char} (hne : digits ≠ []) (hdigits : ∀ c ∈ digits, c.isDigit)
    (h : ∀ c ∈ rest.head?, ¬ c.isDigit) :
    scanInt (digits ++ rest) = some (ofDigits false digits, rest) := by
  obtain ⟨htake, hdrop⟩ := span_digits hdigits h
  obtain ⟨d, ds, rfl⟩ := List.exists_cons_of_ne_nil hne
  have hfirst : d.isDigit := hdigits d (by simp)
  have hblank : ¬ isBlank d := not_isBlank_of_isDigit hfirst
  have hminus : d ≠ '-' := by rintro rfl; exact absurd hfirst (by decide)
  have hplus : d ≠ '+' := by rintro rfl; exact absurd hfirst (by decide)
  rw [List.cons_append] at htake hdrop
  simp [scanInt, hblank, hminus, hplus, htake, hdrop]

theorem atoi_digits {digits : List Char} (hne : digits ≠ []) (hdigits : ∀ c ∈ digits, c.isDigit) :
    atoi digits = ofDigits false digits := by
  have hend : ∀ c ∈ ([] : List Char).head?, ¬ c.isDigit := by simp
  have hscan := scanInt_digits hne hdigits hend
  rw [List.append_nil] at hscan
  rw [atoi, hscan]

theorem scanInt_decimal (n : Nat) {rest : List Char} (h : ∀ c ∈ rest.head?, ¬ c.isDigit) :
    scanInt (decimal n ++ rest) = some (ofDigits false (decimal n), rest) :=
  scanInt_digits Nat.toDigits_ne_nil isDigit_decimal h

theorem scanInt_neg_decimal (n : Nat) {rest : List Char} (h : ∀ c ∈ rest.head?, ¬ c.isDigit) :
    scanInt ('-' :: (decimal n ++ rest)) = some (ofDigits true (decimal n), rest) := by
  obtain ⟨htake, hdrop⟩ := span_digits (@isDigit_decimal n) h
  have hne : decimal n ≠ [] := Nat.toDigits_ne_nil
  have hblank : isBlank '-' = false := by decide
  simp [scanInt, hblank, htake, hdrop, hne]

/-- What `%d` prints of 32 bits, read as an `int`. -/
def printInt (n : UInt32) : String :=
  if n.toNat < 2 ^ 31 then n.toNat.repr else "-" ++ (2 ^ 32 - n.toNat).repr

/-- Reading with `%d` what was printed with `%d`. -/
theorem scanInt_printInt (n : UInt32) : scanInt (printInt n).toList = some (n, []) := by
  have hlt := n.toNat_lt
  have hend : ∀ c ∈ ([] : List Char).head?, ¬ c.isDigit := by simp
  unfold printInt
  split
  · have hscan := scanInt_decimal n.toNat hend
    rw [List.append_nil] at hscan
    rw [Nat.toList_repr, hscan]
    have hn : ofDigits false (decimal n.toNat) = n := UInt32.toNat_inj.mp (ofDigits_decimal hlt)
    rw [hn]
  · have hscan := scanInt_neg_decimal (2 ^ 32 - n.toNat) hend
    rw [List.append_nil] at hscan
    have hn : ofDigits true (decimal (2 ^ 32 - n.toNat)) = n := by
      have hmin : min (2 ^ 32 - n.toNat) (2 ^ 63) = 2 ^ 32 - n.toNat := by omega
      apply UInt32.toNat_inj.mp
      simp only [ofDigits, Nat.ofDigitChars_ten_toDigits, hmin, if_true]
      rw [UInt32.toNat_sub, UInt32.toNat_ofNat_of_lt (by simp only [UInt32.size]; omega)]
      simp
      omega
    rw [String.toList_append, Nat.toList_repr]
    exact hscan.trans (by rw [hn])

/-- A text that starts with none of these has no number to read. -/
theorem scanInt_eq_none {c : Char} (rest : List Char) (hblank : ¬ isBlank c) (hsign : c ≠ '-' ∧ c ≠ '+')
    (hdigit : ¬ c.isDigit) : scanInt (c :: rest) = none := by
  simp [scanInt, hblank, hsign, hdigit]

/-! ## `sscanf` -/

inductive Conversion where
  /-- text that has to stand there -/
  | lit (text : String)
  /-- `%d` -/
  | int
  /-- `%s` with a width -/
  | word (width : Nat)
  deriving DecidableEq, Repr

/-- What a conversion stores. -/
inductive Item where
  | int (n : UInt32)
  | word (text : String)
  deriving DecidableEq, Repr

/-- The items stored before the first conversion that fails. -/
def sscanf : List Conversion → List Char → List Item
  | [], _ => []
  | .lit l :: format, text =>
    if l.toList <+: text then sscanf format (text.drop l.toList.length) else []
  | .int :: format, text =>
    match scanInt text with
    | some (n, rest) => .int n :: sscanf format rest
    | none => []
  | .word width :: format, text =>
    let text := text.dropWhile isBlank
    let word := (text.takeWhile fun c => !isBlank c).take width
    if word = [] then [] else .word (String.ofList word) :: sscanf format (text.drop word.length)

@[simp] theorem sscanf_lit (l : String) (format : List Conversion) (text : List Char) :
    sscanf (.lit l :: format) (l.toList ++ text) = sscanf format text := by
  simp [sscanf]

theorem sscanf_lit_eq_nil {l : String} {text : List Char} (format : List Conversion)
    (h : ¬ l.toList <+: text) : sscanf (.lit l :: format) text = [] := if_neg h

theorem sscanf_int_decimal {n : Nat} (format : List Conversion) {c : Char} (rest : List Char)
    (hc : ¬ c.isDigit) :
    sscanf (.int :: format) (decimal n ++ c :: rest) =
      .int (ofDigits false (decimal n)) :: sscanf format (c :: rest) := by
  rw [sscanf, scanInt_decimal n (by simpa using hc)]

theorem sscanf_word {width : Nat} {c : Char} {text : List Char} (format : List Conversion)
    (hc : ¬ isBlank c) (hwidth : 0 < width) :
    (sscanf (.word width :: format) (c :: text)).head? =
      some (.word (String.ofList (((c :: text).takeWhile fun c => !isBlank c).take width))) := by
  obtain ⟨k, rfl⟩ := Nat.exists_eq_succ_of_ne_zero (by omega : width ≠ 0)
  simp [sscanf, hc]

/-- Text that has to stand there, with what is behind it. -/
def scanText (l text : List Char) : Option (List Char) :=
  if l <+: text then some (text.drop l.length) else none

theorem scanText_append (l text : List Char) : scanText l (l ++ text) = some text := by
  rw [scanText, if_pos (List.prefix_append l text), List.drop_left]

/-- `%[^c]`: everything up to a character, but something. -/
def scanUntil (c : Char) (text : List Char) : Option (List Char × List Char) :=
  let word := text.takeWhile (· ≠ c)
  if word = [] then none else some (word, text.drop word.length)

theorem scanUntil_cons (c : Char) (text : List Char) : scanUntil c (c :: text) = none := by
  simp [scanUntil]

theorem scanUntil_append {c : Char} {word : List Char} (h : c ∉ word) (hne : word ≠ [])
    (text : List Char) : scanUntil c (word ++ c :: text) = some (word, c :: text) := by
  have hall : ∀ a ∈ word, decide (a ≠ c) = true := by
    intro a ha
    rw [decide_eq_true_iff]
    rintro rfl
    exact h ha
  have hword : (word ++ c :: text).takeWhile (· ≠ c) = word := by
    rw [List.takeWhile_append_of_pos hall, List.takeWhile_cons_of_neg (by simp), List.append_nil]
  rw [scanUntil, hword]
  simp only [if_neg hne, List.drop_left]

/-! ## The last entry and the first test that match -/

/-- The number of the last entry that matches, counted from 1; 0 when there is none. -/
def lastMatch (p : α → Bool) (l : List α) : Nat :=
  l.zipIdx.foldl (fun index e => if p e.1 then e.2 + 1 else index) 0

theorem lastMatch_append (p : α → Bool) (l : List α) (a : α) :
    lastMatch p (l ++ [a]) = if p a then l.length + 1 else lastMatch p l := by
  simp [lastMatch, List.zipIdx_append]

theorem lastMatch_congr {p q : α → Bool} {l : List α} (h : ∀ a ∈ l, p a = q a) :
    lastMatch p l = lastMatch q l := by
  induction l using List.reverseRecOn with
  | nil => rfl
  | append_singleton l a ih =>
    rw [lastMatch_append, lastMatch_append, h a (by simp), ih fun b hb => h b (by simp [hb])]

theorem lastMatch_eq_zero {p : α → Bool} {l : List α} : lastMatch p l = 0 ↔ ∀ a ∈ l, ¬ p a := by
  induction l using List.reverseRecOn with
  | nil => simp [lastMatch]
  | append_singleton l a ih =>
    rw [lastMatch_append]
    by_cases ha : p a
    · simp [ha]
    · simp [ha, ih, or_imp, forall_and]

theorem lastMatch_le (p : α → Bool) (l : List α) : lastMatch p l ≤ l.length := by
  induction l using List.reverseRecOn with
  | nil => simp [lastMatch]
  | append_singleton l a ih =>
    rw [lastMatch_append, List.length_append, List.length_singleton]
    split <;> omega

theorem lastMatch_eq_succ {p : α → Bool} {l : List α} {i : Nat} (hi : i < l.length) :
    lastMatch p l = i + 1 ↔ p l[i] ∧ ∀ a ∈ l.drop (i + 1), ¬ p a := by
  induction l using List.reverseRecOn with
  | nil => simp at hi
  | append_singleton l a ih =>
    rw [lastMatch_append]
    rw [List.length_append, List.length_singleton] at hi
    obtain rfl | hlt : i = l.length ∨ i < l.length := by omega
    · have := lastMatch_le p l
      have hne : lastMatch p l ≠ l.length + 1 := by omega
      by_cases ha : p a <;> simp [ha, hne]
    · rw [List.getElem_append_left hlt, List.drop_append_of_le_length hlt]
      by_cases ha : p a
      · have hne : l.length ≠ i := by omega
        simp [ha, hne]
      · simp [ha, ih hlt, or_imp, forall_and]

theorem find?_congr {p q : α → Bool} {l : List α} (h : ∀ a ∈ l, p a = q a) :
    l.find? p = l.find? q := by
  induction l with
  | nil => rfl
  | cons a l ih =>
    rw [List.find?_cons, List.find?_cons, h a (by simp), ih fun b hb => h b (by simp [hb])]

/-- The entry of a key is found when there is one for each key. -/
theorem find?_of_nodup [DecidableEq β] {f : α → β} {l : List α} (hf : (l.map f).Nodup) {a : α}
    (ha : a ∈ l) : l.find? (f · = f a) = some a := by
  induction l with
  | nil => cases ha
  | cons b l ih =>
    rw [List.map_cons, List.nodup_cons] at hf
    obtain rfl | ha := List.mem_cons.mp ha
    · exact List.find?_cons_of_pos (by simp)
    · have hne : f b ≠ f a := fun heq => hf.1 (heq ▸ List.mem_map_of_mem ha)
      rw [List.find?_cons_of_neg (by simpa using hne), ih hf.2 ha]

/-- A chain of tests comes to the first entry of `q` when `q` passes them and what is before
it does not. -/
theorem find?_eq_of_first {p q : α → Bool} {l : List α}
    (hbefore : ∀ a ∈ l.takeWhile (fun a => !q a), ¬ p a) (hq : ∀ a ∈ l, q a → p a) :
    l.find? p = l.find? q := by
  induction l with
  | nil => rfl
  | cons a l ih =>
    rw [List.find?_cons, List.find?_cons]
    by_cases ha : q a
    · simp [ha, hq a (by simp) ha]
    · rw [List.takeWhile_cons_of_pos (by simp [ha])] at hbefore
      have hp : ¬ p a := hbefore a (by simp)
      simp [ha, hp, ih (fun b hb => hbefore b (by simp [hb])) fun b hb => hq b (by simp [hb])]

/-- Of two chains of tests the weaker comes to the same entry exactly when the entries
before it fail the tests it adds. -/
theorem find?_or_eq {p q : α → Bool} {f : α → β} {l : List α} (hf : (l.map f).Nodup) :
    (l.find? fun a => p a || q a).map f = (l.find? q).map f ↔
      ∀ a ∈ l.takeWhile (fun a => !q a), ¬ p a := by
  induction l with
  | nil => simp
  | cons a l ih =>
    rw [List.map_cons, List.nodup_cons] at hf
    by_cases hq : q a
    · simp [hq]
    · by_cases hp : p a
      · have hne : (l.find? q).map f ≠ some (f a) := by
          intro h
          obtain ⟨b, hb, hfb⟩ := Option.map_eq_some_iff.mp h
          exact hf.1 (List.mem_map.mpr ⟨b, List.mem_of_find?_eq_some hb, hfb⟩)
        simp [hq, hp, hne.symm]
      · simp [hq, hp, ih hf.2]

end WanManager.Text
