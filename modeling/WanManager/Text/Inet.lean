import Mathlib.Data.List.Basic
import WanManager.Text.Scan

/-! # Internet addresses as text

What `inet_pton` reads. An IPv4 address is four numbers without leading zeros; an IPv6 address is
eight groups of hexadecimal digits, of which `::` may stand for some that are zero and a dotted IPv4
address for the last two. -/

namespace WanManager.Text

/-! ## IPv4 -/

structure Ipv4 where
  a : UInt8
  b : UInt8
  c : UInt8
  d : UInt8
  deriving DecidableEq, Repr

/-- The dotted quad of an address. -/
def Ipv4.text (ip : Ipv4) : List Char :=
  decimal ip.a.toNat ++ '.' :: (decimal ip.b.toNat ++ '.' :: (decimal ip.c.toNat ++ '.' ::
    decimal ip.d.toNat))

/-- A number below 256 as `%d` prints it. -/
def octet (digits : List Char) : Option UInt8 :=
  let n := Nat.ofDigitChars 10 digits 0
  if digits = decimal n ∧ n < 256 then some (UInt8.ofNat n) else none

theorem octet_eq_some {digits : List Char} {n : UInt8} :
    octet digits = some n ↔ digits = decimal n.toNat := by
  simp only [octet]
  constructor
  · intro h
    split at h
    · next hn =>
      have hn' := congrArg UInt8.toNat (Option.some.inj h)
      rw [UInt8.toNat_ofNat_of_lt' hn.2] at hn'
      rw [← hn']
      exact hn.1
    · cases h
  · intro h
    have hvalue : Nat.ofDigitChars 10 digits 0 = n.toNat := by
      rw [h, Nat.ofDigitChars_ten_toDigits]
    have hlt := n.toNat_lt
    simp only [hvalue]
    rw [if_pos ⟨h, hlt⟩, UInt8.ofNat_toNat]

/-- Four octets with dots between them. -/
def quad (text : List Char) : Option Ipv4 :=
  match text.splitOn '.' with
  | [a, b, c, d] =>
    match octet a, octet b, octet c, octet d with
    | some a, some b, some c, some d => some ⟨a, b, c, d⟩
    | _, _, _, _ => none
  | _ => none

theorem decimal_inj {m n : Nat} : decimal m = decimal n ↔ m = n := by
  refine ⟨fun h => ?_, fun h => h ▸ rfl⟩
  have hvalue := congrArg (fun digits => Nat.ofDigitChars 10 digits 0) h
  simpa only [Nat.ofDigitChars_ten_toDigits] using hvalue

theorem dot_notMem_decimal (n : Nat) : '.' ∉ decimal n := by
  intro h
  exact absurd (isDigit_decimal _ h) (by decide)

theorem Ipv4.text_eq_intercalate (ip : Ipv4) :
    ip.text = ['.'].intercalate
      [decimal ip.a.toNat, decimal ip.b.toNat, decimal ip.c.toNat, decimal ip.d.toNat] := by
  simp [Ipv4.text, List.intercalate]

/-- An address is read from its own dotted quad and from no other text. -/
theorem quad_eq_some {text : List Char} {ip : Ipv4} : quad text = some ip ↔ text = ip.text := by
  constructor
  · intro h
    unfold quad at h
    split at h
    · next a b c d hsplit =>
      split at h
      · next n₁ n₂ n₃ n₄ h₁ h₂ h₃ h₄ =>
        obtain rfl := Option.some.inj h
        rw [octet_eq_some] at h₁ h₂ h₃ h₄
        have hjoin : ['.'].intercalate (text.splitOn '.') = text := List.intercalate_splitOn '.'
        rw [← hjoin, hsplit, Ipv4.text_eq_intercalate, h₁, h₂, h₃, h₄]
      · cases h
    · cases h
  · rintro rfl
    have hsplit : ip.text.splitOn '.' =
        [decimal ip.a.toNat, decimal ip.b.toNat, decimal ip.c.toNat, decimal ip.d.toNat] := by
      rw [Ipv4.text_eq_intercalate]
      exact List.splitOn_intercalate '.' (by simp [dot_notMem_decimal]) (by simp)
    unfold quad
    rw [hsplit]
    simp only [octet_eq_some.mpr rfl]

theorem Ipv4.text_inj {ip ip' : Ipv4} : ip.text = ip'.text ↔ ip = ip' := by
  refine ⟨fun h => ?_, fun h => h ▸ rfl⟩
  have hread : quad ip'.text = some ip := quad_eq_some.mpr h.symm
  exact Option.some.inj (hread.symm.trans (quad_eq_some.mpr rfl))

theorem length_decimal_octet (n : UInt8) : (decimal n.toNat).length ≤ 3 := by
  rw [decimal, Nat.length_toDigits_le_iff (by decide) (by decide)]
  have hlt := n.toNat_lt
  omega

theorem Ipv4.length_text (ip : Ipv4) : ip.text.length ≤ 15 := by
  have ha := length_decimal_octet ip.a
  have hb := length_decimal_octet ip.b
  have hc := length_decimal_octet ip.c
  have hd := length_decimal_octet ip.d
  simp only [Ipv4.text, List.length_append, List.length_cons]
  omega

/-- `inet_pton` for `AF_INET` -/
def inetPton4 (s : String) : Option Ipv4 := quad s.toList

example : inetPton4 "192.168.0.1" = some ⟨192, 168, 0, 1⟩ ∧ inetPton4 "192.168.00.1" = none := by
  decide +kernel

/-- A number ends at the dot, also when only the start of the text is known. -/
theorem decimal_dot_isPrefixOf {k n : Nat} {start rest : List Char} :
    decimal k ++ '.' :: start <+: decimal n ++ '.' :: rest ↔ k = n ∧ start <+: rest := by
  rw [← decimal_inj]
  have hk := @isDigit_decimal k
  have hn := @isDigit_decimal n
  generalize decimal k = ks at hk ⊢
  generalize decimal n = ns at hn ⊢
  induction ks generalizing ns with
  | nil =>
    cases ns with
    | nil => simp
    | cons d ns =>
      have hd : '.' ≠ d := by
        rintro rfl
        exact absurd (hn '.' (by simp)) (by decide)
      simp [hd]
  | cons c ks ih =>
    cases ns with
    | nil =>
      have hc : c ≠ '.' := by
        rintro rfl
        exact absurd (hk '.' (by simp)) (by decide)
      simp [hc]
    | cons d ns =>
      have htail := ih (fun c hc => hk c (by simp [hc])) ns fun c hc => hn c (by simp [hc])
      simp only [List.cons_append, List.cons_prefix_cons, List.cons.injEq, htail, and_assoc]

/-- Three digits at the start of an octet are the octet. -/
theorem decimal_isPrefixOf {k n : UInt8} {rest : List Char} (hk : 100 ≤ k.toNat)
    (hrest : ∀ c ∈ rest.head?, ¬ c.isDigit) :
    decimal k.toNat <+: decimal n.toNat ++ rest ↔ n = k := by
  have hlength : (decimal n.toNat).length ≤ (decimal k.toNat).length := by
    have hn := length_decimal_octet n
    have hthree : ¬ (decimal k.toNat).length ≤ 2 := by
      rw [decimal, Nat.length_toDigits_le_iff (by decide) (by decide)]
      omega
    omega
  constructor
  · intro h
    apply UInt8.toNat_inj.mp
    rw [← decimal_inj]
    obtain hle | ⟨t, ht⟩ := List.prefix_or_prefix_of_prefix h (List.prefix_append _ rest)
    · exact (hle.eq_of_length_le hlength).symm
    · cases t with
      | nil => rw [← ht, List.append_nil]
      | cons c t =>
        rw [← ht] at h
        obtain ⟨u, rfl⟩ := (List.prefix_append_right_inj _).mp h
        have hc : c ∈ decimal k.toNat := by
          rw [← ht]
          simp
        exact absurd (isDigit_decimal c hc) (hrest c rfl)
  · rintro rfl
    exact List.prefix_append _ _

/-! ## Groups of hexadecimal digits -/

def hexDigit (c : Char) : Option Nat :=
  if '0' ≤ c ∧ c ≤ '9' then some (c.toNat - '0'.toNat)
  else if 'a' ≤ c ∧ c ≤ 'f' then some (c.toNat - 'a'.toNat + 10)
  else if 'A' ≤ c ∧ c ≤ 'F' then some (c.toNat - 'A'.toNat + 10)
  else none

def hexNumber : List Char → Nat → Option Nat
  | [], n => some n
  | c :: digits, n => (hexDigit c).bind fun d => hexNumber digits (16 * n + d)

/-- One to four digits. -/
def hexGroup (digits : List Char) : Option UInt16 :=
  if digits ≠ [] ∧ digits.length ≤ 4 then (hexNumber digits 0).map UInt16.ofNat else none

/-- The digit zero and the separators, all that a text of the unspecified address is made of. -/
def isNought (c : Char) : Bool := c = '0' ∨ c = ':' ∨ c = '.'

theorem hexDigit_lt {c : Char} {d : Nat} (h : hexDigit c = some d) : d < 16 := by
  simp only [hexDigit, Char.le_def, UInt32.le_iff_toNat_le, Char.toNat] at h
  have h9 : '9'.val.toNat = 57 := rfl
  have hf : 'f'.val.toNat = 102 := rfl
  have hF : 'F'.val.toNat = 70 := rfl
  have h0 : '0'.val.toNat = 48 := rfl
  have ha : 'a'.val.toNat = 97 := rfl
  have hA : 'A'.val.toNat = 65 := rfl
  grind

theorem hexDigit_eq_zero {c : Char} {d : Nat} (h : hexDigit c = some d) : d = 0 ↔ isNought c := by
  constructor
  · rintro rfl
    have hc : c = '0' := by
      simp only [hexDigit, Char.le_def, UInt32.le_iff_toNat_le, Char.toNat] at h
      have h0 : '0'.val.toNat = 48 := rfl
      have ha : 'a'.val.toNat = 97 := rfl
      have hA : 'A'.val.toNat = 65 := rfl
      have hval : c.val.toNat = '0'.val.toNat := by grind
      exact Char.ext (UInt32.toNat_inj.mp hval)
    simp [isNought, hc]
  · intro hc
    simp only [isNought, decide_eq_true_eq] at hc
    obtain rfl | rfl | rfl := hc
    · exact (Option.some.inj h).symm
    · cases h
    · cases h

/-- Four digits fit 16 bits, and make zero when they are all zero. -/
theorem hexNumber_spec {digits : List Char} {n m : Nat} (h : hexNumber digits n = some m) :
    m < 16 ^ digits.length * (n + 1) ∧ (m = 0 ↔ n = 0 ∧ ∀ c ∈ digits, isNought c) := by
  induction digits generalizing n with
  | nil =>
    obtain rfl := Option.some.inj h
    simp
  | cons c digits ih =>
    obtain ⟨d, hd, hm⟩ := Option.bind_eq_some_iff.mp h
    obtain ⟨hlt, hzero⟩ := ih hm
    have hd16 := hexDigit_lt hd
    constructor
    · calc
        m < 16 ^ digits.length * (16 * n + d + 1) := hlt
        _ ≤ 16 ^ digits.length * (16 * (n + 1)) := Nat.mul_le_mul_left _ (by omega)
        _ = 16 ^ (c :: digits).length * (n + 1) := by rw [List.length_cons, Nat.pow_succ, Nat.mul_assoc]
    · rw [hzero, List.forall_mem_cons, ← hexDigit_eq_zero hd]
      constructor
      · rintro ⟨hn, hall⟩
        exact ⟨by omega, by omega, hall⟩
      · rintro ⟨rfl, rfl, hall⟩
        exact ⟨rfl, hall⟩

theorem hexGroup_spec {digits : List Char} {g : UInt16} (h : hexGroup digits = some g) :
    digits.length ≤ 4 ∧ (g = 0 ↔ ∀ c ∈ digits, isNought c) := by
  unfold hexGroup at h
  split at h
  · next hlength =>
    obtain ⟨n, hn, rfl⟩ := Option.map_eq_some_iff.mp h
    obtain ⟨hlt, hzero⟩ := hexNumber_spec hn
    have hpow : 16 ^ digits.length ≤ 16 ^ 4 := Nat.pow_le_pow_right (by decide) hlength.2
    have hsize : n < UInt16.size := by
      rw [Nat.mul_one] at hlt
      exact Nat.lt_of_lt_of_le hlt hpow
    refine ⟨hlength.2, ?_⟩
    rw [← UInt16.toNat_inj, UInt16.toNat_ofNat_of_lt' hsize, UInt16.toNat_zero, hzero]
    simp
  · cases h

/-! ## IPv6 -/

/-- The two groups of the last 32 bits. -/
def Ipv4.groups (ip : Ipv4) : List UInt16 :=
  [ip.a.toUInt16 * 256 + ip.b.toUInt16, ip.c.toUInt16 * 256 + ip.d.toUInt16]

structure Ipv6 where
  groups : List UInt16
  length_eq : groups.length = 8
  deriving DecidableEq, Repr

/-- The address whose bits are all zero. -/
def Ipv6.unspecified : Ipv6 := ⟨List.replicate 8 0, List.length_replicate⟩

theorem Ipv6.eq_unspecified (ip : Ipv6) : ip = Ipv6.unspecified ↔ ∀ g ∈ ip.groups, g = 0 := by
  obtain ⟨groups, hlength⟩ := ip
  simp only [Ipv6.unspecified, Ipv6.mk.injEq, List.eq_replicate_iff, hlength, true_and]

/-- What stands between the colons. -/
def pieces (text : List Char) : List (List Char) := if text = [] then [] else text.splitOn ':'

def hexGroups : List (List Char) → Option (List UInt16)
  | [] => some []
  | piece :: rest => (hexGroup piece).bind fun g => (hexGroups rest).map (g :: ·)

/-- The groups at the end of a text, where a dotted quad may stand for the last two. -/
def lastGroups : List (List Char) → Option (List UInt16)
  | [] => some []
  | [piece] =>
    match hexGroup piece with
    | some g => some [g]
    | none => (quad piece).map Ipv4.groups
  | piece :: rest => (hexGroup piece).bind fun g => (lastGroups rest).map (g :: ·)

def ofGroups (groups : List UInt16) : Option Ipv6 :=
  if h : groups.length = 8 then some ⟨groups, h⟩ else none

/-- The text before the first `::` and the text after it. -/
def cutDouble : List Char → Option (List Char × List Char)
  | [] => none
  | c :: rest =>
    if c = ':' ∧ rest.head? = some ':' then some ([], rest.tail)
    else (cutDouble rest).map fun cut => (c :: cut.1, cut.2)

/-- The groups of an address with `::`, which stands for one group at least. -/
def padGroups (front back : List UInt16) : Option Ipv6 :=
  if front.length + back.length < 8 then
    ofGroups (front ++ List.replicate (8 - (front.length + back.length)) 0 ++ back)
  else none

def readIpv6 (text : List Char) : Option Ipv6 :=
  match cutDouble text with
  | none => (lastGroups (pieces text)).bind ofGroups
  | some (front, back) =>
    (hexGroups (pieces front)).bind fun gs => (lastGroups (pieces back)).bind (padGroups gs)

/-- `inet_pton` for `AF_INET6` -/
def inetPton6 (s : String) : Option Ipv6 := readIpv6 s.toList

example : (inetPton6 "2001:db8::192.0.2.1").map Ipv6.groups =
      some [0x2001, 0xdb8, 0, 0, 0, 0, 0xc000, 0x201] ∧
    inetPton6 "1::2::3" = none ∧ inetPton6 ":::" = none ∧ inetPton6 "1:2:3:4:5:6:7::8" = none ∧
    inetPton6 "::0" = some Ipv6.unspecified := by decide +kernel

/-! ## The texts of the unspecified address -/

/-- `text` spells groups that are zero exactly when it is made of zeros and separators; then it has
four characters for each of them at most, beside the colons. -/
structure Spells (text : List Char) (groups : List UInt16) : Prop where
  nought : (∀ g ∈ groups, g = 0) ↔ ∀ c ∈ text, isNought c
  short : (∀ g ∈ groups, g = 0) → text.length ≤ 5 * groups.length - 1

theorem nought_decimal {n : Nat} : (∀ c ∈ decimal n, isNought c) ↔ n = 0 := by
  constructor
  · intro h
    have hzeros : decimal n = List.replicate (decimal n).length '0' := by
      refine List.eq_replicate_length.mpr fun c hc => ?_
      have hnought := h c hc
      simp only [isNought, decide_eq_true_eq] at hnought
      obtain rfl | rfl | rfl := hnought
      · rfl
      · exact absurd (isDigit_decimal _ hc) (by decide)
      · exact absurd (isDigit_decimal _ hc) (by decide)
    have hvalue := congrArg (fun digits => Nat.ofDigitChars 10 digits 0) hzeros
    simpa only [Nat.ofDigitChars_ten_toDigits, Nat.ofDigitChars_replicate_zero, Nat.mul_zero] using hvalue
  · rintro rfl
    have hdigits : decimal 0 = ['0'] := by decide
    simp [hdigits, isNought]

theorem group_eq_zero (a b : UInt8) : a.toUInt16 * 256 + b.toUInt16 = 0 ↔ a = 0 ∧ b = 0 := by
  have ha := a.toNat_lt
  have hb := b.toNat_lt
  simp only [← UInt16.toNat_inj, ← UInt8.toNat_inj, UInt16.toNat_add, UInt16.toNat_mul,
    UInt8.toNat_toUInt16, UInt16.toNat_ofNat, UInt8.toNat_zero]
  omega

theorem spells_quad {text : List Char} {ip : Ipv4} (h : quad text = some ip) :
    Spells text ip.groups := by
  rw [quad_eq_some] at h
  have hzero : (∀ g ∈ ip.groups, g = 0) ↔ (ip.a = 0 ∧ ip.b = 0) ∧ ip.c = 0 ∧ ip.d = 0 := by
    simp [Ipv4.groups, group_eq_zero]
  constructor
  · have hdot : isNought '.' = true := by decide
    simp only [hzero, h, Ipv4.text, List.forall_mem_append, List.forall_mem_cons, nought_decimal, hdot,
      true_and, ← UInt8.toNat_inj, UInt8.toNat_zero, and_assoc]
  · intro hall
    obtain ⟨⟨ha, hb⟩, hc, hd⟩ := hzero.mp hall
    have hlength : ip.groups.length = 2 := rfl
    rw [h, Ipv4.text, ha, hb, hc, hd, hlength]
    decide

theorem spells_group {text : List Char} {g : UInt16} (h : hexGroup text = some g) : Spells text [g] := by
  obtain ⟨hlength, hzero⟩ := hexGroup_spec h
  exact ⟨by simpa using hzero, fun _ => by simpa using hlength⟩

/-- One more group in front of a text. -/
theorem Spells.cons {text : List Char} {groups : List UInt16} {piece : List Char} {g : UInt16}
    (hpiece : Spells piece [g]) (h : Spells text groups) (hne : groups ≠ []) :
    Spells (piece ++ ':' :: text) (g :: groups) := by
  have hcolon : isNought ':' = true := by decide
  have hlength := List.length_pos_of_ne_nil hne
  constructor
  · simp only [List.forall_mem_append, List.forall_mem_cons, hcolon, true_and, ← h.nought, ← hpiece.nought,
      List.not_mem_nil, false_implies, implies_true, and_true]
  · intro hall
    obtain ⟨hg, hall⟩ := List.forall_mem_cons.mp hall
    have hshort := h.short hall
    have hfirst := hpiece.short (by simpa using hg)
    simp only [List.length_append, List.length_cons, List.length_nil] at hfirst ⊢
    omega

theorem spells_nil : Spells [] [] := ⟨by simp, by simp⟩

theorem intercalate_cons {piece : List Char} {rest : List (List Char)} (h : rest ≠ []) :
    [':'].intercalate (piece :: rest) = piece ++ ':' :: [':'].intercalate rest := by
  rw [List.intercalate_cons_of_ne_nil h, List.append_assoc, List.singleton_append]

/-- Pieces that are groups: the first is one, and the others are. -/
theorem hexGroups_cons {piece : List Char} {rest : List (List Char)} {hs : List UInt16}
    (h : hexGroups (piece :: rest) = some hs) :
    ∃ g gs, hexGroup piece = some g ∧ hexGroups rest = some gs ∧ hs = g :: gs := by
  obtain ⟨g, hg, hrest⟩ := Option.bind_eq_some_iff.mp h
  obtain ⟨gs, hgs, heq⟩ := Option.map_eq_some_iff.mp hrest
  exact ⟨g, gs, hg, hgs, heq.symm⟩

theorem spells_hexGroups {ps : List (List Char)} {gs : List UInt16} (h : hexGroups ps = some gs) :
    Spells ([':'].intercalate ps) gs ∧ gs.length = ps.length := by
  induction ps generalizing gs with
  | nil =>
    obtain rfl := Option.some.inj h
    exact ⟨spells_nil, rfl⟩
  | cons piece rest ih =>
    obtain ⟨g, gs, hg, hgs, rfl⟩ := hexGroups_cons h
    obtain ⟨hspells, hlength⟩ := ih hgs
    refine ⟨?_, by simp [hlength]⟩
    by_cases hnil : rest = []
    · subst hnil
      obtain rfl := List.eq_nil_of_length_eq_zero hlength
      simpa using spells_group hg
    · have hne : gs ≠ [] := by
        rintro rfl
        exact hnil (List.eq_nil_of_length_eq_zero hlength.symm)
      rw [intercalate_cons hnil]
      exact (spells_group hg).cons hspells hne

theorem spells_lastGroups {ps : List (List Char)} {gs : List UInt16} (h : lastGroups ps = some gs) :
    Spells ([':'].intercalate ps) gs ∧ (gs = [] → ps = []) := by
  fun_induction lastGroups ps generalizing gs with
  | case1 =>
    obtain rfl := Option.some.inj h
    exact ⟨spells_nil, fun _ => rfl⟩
  | case2 piece g hg =>
    obtain rfl := Option.some.inj h
    exact ⟨by simpa using spells_group hg, by simp⟩
  | case3 piece hnone =>
    obtain ⟨ip, hip, rfl⟩ := Option.map_eq_some_iff.mp h
    exact ⟨by simpa using spells_quad hip, by simp [Ipv4.groups]⟩
  | case4 piece rest hrest ih =>
    obtain ⟨g, hg, htail⟩ := Option.bind_eq_some_iff.mp h
    obtain ⟨gs, hgs, rfl⟩ := Option.map_eq_some_iff.mp htail
    obtain ⟨hspells, hnil⟩ := ih hgs
    have hne : rest ≠ [] := by
      rintro rfl
      exact hrest rfl
    rw [intercalate_cons hne]
    exact ⟨(spells_group hg).cons hspells fun h => hne (hnil h), by simp⟩

theorem intercalate_pieces (text : List Char) : [':'].intercalate (pieces text) = text := by
  unfold pieces
  split
  · next h => simp [h]
  · exact List.intercalate_splitOn ':'

theorem cutDouble_eq_some {text front back : List Char} (h : cutDouble text = some (front, back)) :
    text = front ++ ':' :: ':' :: back := by
  induction text generalizing front with
  | nil => cases h
  | cons c rest ih =>
    unfold cutDouble at h
    split at h
    · next hc =>
      cases h
      cases rest with
      | nil => cases hc.2
      | cons c' rest =>
        obtain ⟨rfl, hc'⟩ := hc
        obtain rfl := Option.some.inj hc'
        rfl
    · obtain ⟨cut, hcut, hpair⟩ := Option.map_eq_some_iff.mp h
      cases hpair
      rw [ih hcut, List.cons_append]

theorem ofGroups_eq_some {gs : List UInt16} {ip : Ipv6} : ofGroups gs = some ip ↔ ip.groups = gs := by
  unfold ofGroups
  constructor
  · intro h
    split at h
    · obtain rfl := Option.some.inj h
      rfl
    · cases h
  · rintro rfl
    rw [dif_pos ip.length_eq]

theorem padGroups_eq_some {front back : List UInt16} {ip : Ipv6} :
    padGroups front back = some ip ↔ front.length + back.length < 8 ∧
      ip.groups = front ++ List.replicate (8 - (front.length + back.length)) 0 ++ back := by
  unfold padGroups
  split
  · next h => simp [ofGroups_eq_some, h]
  · next h => simp [h]

/-- The unspecified address has the texts of zeros, colons and dots that are read, all of them
shorter than 40 characters. -/
theorem readIpv6_unspecified {text : List Char} {ip : Ipv6} (h : readIpv6 text = some ip) :
    (ip = Ipv6.unspecified ↔ ∀ c ∈ text, isNought c) ∧ (ip = Ipv6.unspecified → text.length < 40) := by
  rw [ip.eq_unspecified]
  unfold readIpv6 at h
  split at h
  · obtain ⟨gs, hgs, hip⟩ := Option.bind_eq_some_iff.mp h
    obtain rfl := ofGroups_eq_some.mp hip
    obtain ⟨hspells, -⟩ := spells_lastGroups hgs
    rw [intercalate_pieces] at hspells
    refine ⟨hspells.nought, fun hall => ?_⟩
    have hshort := hspells.short hall
    have hlength := ip.length_eq
    omega
  · next front back hcut =>
    obtain ⟨gs, hgs, hback⟩ := Option.bind_eq_some_iff.mp h
    obtain ⟨hs, hhs, hip⟩ := Option.bind_eq_some_iff.mp hback
    obtain ⟨hlt, hgroups⟩ := padGroups_eq_some.mp hip
    have hfront := (spells_hexGroups hgs).1
    have hback := (spells_lastGroups hhs).1
    rw [intercalate_pieces] at hfront hback
    obtain rfl := cutDouble_eq_some hcut
    have hcolon : isNought ':' = true := by decide
    have hzeros : ∀ g ∈ List.replicate (8 - (gs.length + hs.length)) (0 : UInt16), g = 0 :=
      fun g hg => List.eq_of_mem_replicate hg
    constructor
    · simp only [hgroups, List.forall_mem_append, List.forall_mem_cons, hcolon, true_and, hfront.nought,
        hback.nought, iff_true_intro hzeros, and_true]
    · intro hall
      rw [hgroups, List.forall_mem_append, List.forall_mem_append] at hall
      have hshort := hfront.short hall.1.1
      have hshort' := hback.short hall.2
      simp only [List.length_append, List.length_cons]
      omega

/-! ## Writing addresses -/

/-- A group of digits holds a digit, and no colon. -/
theorem hexGroup_digits {digits : List Char} {g : UInt16} (h : hexGroup digits = some g) :
    digits ≠ [] ∧ ':' ∉ digits := by
  have hnumber : ∀ {digits : List Char} {n m : Nat}, hexNumber digits n = some m → ':' ∉ digits := by
    intro digits
    induction digits with
    | nil => simp
    | cons c digits ih =>
      intro n m hm
      obtain ⟨d, hd, hrest⟩ := Option.bind_eq_some_iff.mp hm
      simp only [List.mem_cons, not_or]
      refine ⟨?_, ih hrest⟩
      rintro rfl
      cases hd
  unfold hexGroup at h
  split at h
  · next hlength =>
    obtain ⟨n, hn, -⟩ := Option.map_eq_some_iff.mp h
    exact ⟨hlength.1, hnumber hn⟩
  · cases h

theorem hexGroups_digits {ps : List (List Char)} {gs : List UInt16} (h : hexGroups ps = some gs) :
    ∀ piece ∈ ps, piece ≠ [] ∧ ':' ∉ piece := by
  induction ps generalizing gs with
  | nil => simp
  | cons piece rest ih =>
    obtain ⟨g, gs, hg, hgs, rfl⟩ := hexGroups_cons h
    exact List.forall_mem_cons.mpr ⟨hexGroup_digits hg, ih hgs⟩

theorem hexGroups_append {ps qs : List (List Char)} {gs hs : List UInt16} (hps : hexGroups ps = some gs)
    (hqs : hexGroups qs = some hs) : hexGroups (ps ++ qs) = some (gs ++ hs) := by
  induction ps generalizing gs with
  | nil =>
    obtain rfl := Option.some.inj hps
    exact hqs
  | cons piece rest ih =>
    obtain ⟨g, gs, hg, hgs, rfl⟩ := hexGroups_cons hps
    rw [List.cons_append, hexGroups, hg, Option.bind_some, ih hgs]
    rfl

theorem lastGroups_of_hexGroups {ps : List (List Char)} {gs : List UInt16} (h : hexGroups ps = some gs) :
    lastGroups ps = some gs := by
  fun_induction lastGroups ps generalizing gs with
  | case1 => exact h
  | case2 piece g hg =>
    rw [hexGroups, hg, Option.bind_some, hexGroups] at h
    exact h
  | case3 piece hnone =>
    rw [hexGroups, hnone] at h
    cases h
  | case4 piece rest hrest ih =>
    obtain ⟨g, hg, htail⟩ := Option.bind_eq_some_iff.mp h
    obtain ⟨gs, hgs, rfl⟩ := Option.map_eq_some_iff.mp htail
    rw [hg, ih hgs]
    rfl

theorem pieces_intercalate {ps : List (List Char)} (h : ∀ piece ∈ ps, piece ≠ [] ∧ ':' ∉ piece) :
    pieces ([':'].intercalate ps) = ps := by
  cases ps with
  | nil => rfl
  | cons piece rest =>
    have hsplit := List.splitOn_intercalate ':' (fun l hl => (h l hl).2) (List.cons_ne_nil piece rest)
    have hne : [':'].intercalate (piece :: rest) ≠ [] := by
      intro hnil
      rw [hnil, List.splitOn_nil] at hsplit
      have hpiece : piece = [] := (List.cons.inj hsplit).1.symm
      exact (h piece (by simp)).1 hpiece
    rw [pieces, if_neg hne, hsplit]

/-- Digits in front of a text do not change where it is cut. -/
theorem cutDouble_append {piece : List Char} (hpiece : ':' ∉ piece) (text : List Char) :
    cutDouble (piece ++ text) = (cutDouble text).map fun cut => (piece ++ cut.1, cut.2) := by
  induction piece with
  | nil => cases h : cutDouble text <;> simp [h]
  | cons c piece ih =>
    simp only [List.mem_cons, not_or] at hpiece
    have hc : ¬ (c = ':' ∧ (piece ++ text).head? = some ':') := fun h => hpiece.1 h.1.symm
    rw [List.cons_append, cutDouble, if_neg hc, ih hpiece.2, Option.map_map]
    rfl

theorem cutDouble_colon {text : List Char} (h : text.head? ≠ some ':') :
    cutDouble (':' :: text) = (cutDouble text).map fun cut => (':' :: cut.1, cut.2) := by
  rw [cutDouble, if_neg fun hc => h hc.2]

theorem head?_intercalate {piece : List Char} {rest : List (List Char)} (hne : piece ≠ [])
    (hcolon : ':' ∉ piece) (text : List Char) :
    ([':'].intercalate (piece :: rest) ++ text).head? ≠ some ':' := by
  obtain ⟨c, cs, rfl⟩ := List.exists_cons_of_ne_nil hne
  have hc : c ≠ ':' := fun h => hcolon (by simp [h])
  cases rest with
  | nil => simpa using hc
  | cons next rest =>
    rw [intercalate_cons (List.cons_ne_nil _ _)]
    simpa using hc

/-- Groups with single colons between them, and what comes after them. -/
theorem cutDouble_intercalate {ps : List (List Char)} (h : ∀ piece ∈ ps, piece ≠ [] ∧ ':' ∉ piece)
    (text : List Char) :
    cutDouble ([':'].intercalate ps ++ text) =
      (cutDouble text).map fun cut => ([':'].intercalate ps ++ cut.1, cut.2) := by
  induction ps with
  | nil => cases hcut : cutDouble text <;> simp [hcut]
  | cons piece rest ih =>
    obtain ⟨⟨hne, hcolon⟩, hrest⟩ := List.forall_mem_cons.mp h
    cases rest with
    | nil => simpa using cutDouble_append hcolon text
    | cons next rest =>
      obtain ⟨⟨hne', hcolon'⟩, -⟩ := List.forall_mem_cons.mp hrest
      rw [intercalate_cons (List.cons_ne_nil _ _), List.append_assoc, cutDouble_append hcolon,
        List.cons_append, cutDouble_colon (head?_intercalate hne' hcolon' text), ih hrest]
      simp only [Option.map_map, Function.comp_def, List.append_assoc, List.cons_append]

/-- Eight groups are read as the address. -/
theorem readIpv6_full {ps : List (List Char)} {gs : List UInt16} (h : hexGroups ps = some gs) :
    readIpv6 ([':'].intercalate ps) = ofGroups gs := by
  have hdigits := hexGroups_digits h
  have hcut := cutDouble_intercalate hdigits []
  rw [List.append_nil] at hcut
  rw [readIpv6, hcut, cutDouble]
  simp only [Option.map_none, pieces_intercalate hdigits, lastGroups_of_hexGroups h, Option.bind_some]

/-- Fewer groups are read with zeros at the double colon; the last ones may be a dotted quad. -/
theorem readIpv6_tail {ps qs : List (List Char)} {gs hs : List UInt16}
    (hps : hexGroups ps = some gs) (hqs : ∀ piece ∈ qs, piece ≠ [] ∧ ':' ∉ piece)
    (hlast : lastGroups qs = some hs) :
    readIpv6 ([':'].intercalate ps ++ ':' :: ':' :: [':'].intercalate qs) = padGroups gs hs := by
  have hcut := cutDouble_intercalate (hexGroups_digits hps) (':' :: ':' :: [':'].intercalate qs)
  have hdouble : cutDouble (':' :: ':' :: [':'].intercalate qs) =
      some ([], [':'].intercalate qs) := if_pos ⟨rfl, rfl⟩
  rw [hdouble] at hcut
  rw [readIpv6, hcut]
  simp only [Option.map_some, List.append_nil, pieces_intercalate (hexGroups_digits hps),
    pieces_intercalate hqs, hps, hlast, Option.bind_some]

theorem readIpv6_double {ps qs : List (List Char)} {gs hs : List UInt16} (hps : hexGroups ps = some gs)
    (hqs : hexGroups qs = some hs) :
    readIpv6 ([':'].intercalate ps ++ ':' :: ':' :: [':'].intercalate qs) = padGroups gs hs :=
  readIpv6_tail hps (hexGroups_digits hqs) (lastGroups_of_hexGroups hqs)

end WanManager.Text
