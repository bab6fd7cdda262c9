import Mathlib
import WanManager.MaptAgreement

/-! # The ports of a PSID

`wanmgr_net_utils.c` tells the kernel module for FTP the ranges of ports that belong to the PSID,
as a text. The ranges of all PSIDs share the ports out among them; the text has room for those of
an offset of at most six bits. -/

namespace WanManager
open Wire

namespace Mapt

/-! ## The code -/

/-- `BUFLEN_32` and `BUFLEN_1024` -/
abbrev bufLen32 : Nat := 32
abbrev bufLen1024 : Nat := 1024

/-- An `int`, and its bits. -/
def int32 (n : Int) : Int := (BitVec.ofInt 32 n).toInt

def bits32 (n : Int) : Nat := (BitVec.ofInt 32 n).toNat

/-- `offset` -/
def portOffset (offset : Int) : Int := if offset = 0 then 6 else offset

/-- What is computed before the loop; `index` runs from 1 to below `a`. -/
structure PortPlan where
  a : Int
  m : Int
  contigousPort : Nat
  ratio : Int
  deriving DecidableEq, Repr

def portPlan (t : Target) (offset psidLen : Int) : Logged Access PortPlan := do
  let a ← shiftLeft t 1 offset
  let m := 16 - (psidLen + offset)
  let contigousPort ← shiftLeft t 1 m
  return { a := int32 a, m, contigousPort, ratio := 16 - offset }

def PortPlan.indices (plan : PortPlan) : List Nat := List.range' 1 (plan.a - 1).toNat

/-- `initialPortValue` and `finalPortValue` -/
def portRange (t : Target) (plan : PortPlan) (psid : Int) (index : Nat) :
    Logged Access (Int × Int) := do
  let high ← shiftLeft t index plan.ratio
  let low ← shiftLeft t (bits32 psid) plan.m
  let initialPortValue := int32 (high + low)
  return (initialPortValue, int32 (initialPortValue + (plan.contigousPort - 1)))

/-- The ranges, one for each turn of the loop. -/
def portRanges (t : Target) (offset psidLen psid : Int) : Logged Access (List (Int × Int)) := do
  let plan ← portPlan t (portOffset offset) psidLen
  plan.indices.mapM' (portRange t plan psid)

/-- `%d,%d,` -/
def rangeText (r : Int × Int) : List Char :=
  r.1.repr.toList ++ ',' :: (r.2.repr.toList ++ [','])

/-- What `snprintf` leaves in 32 bytes. -/
def snprintf32 (s : List Char) : List Char := s.take (bufLen32 - 1)

/-- `strncat` of up to 32 characters, with the NUL, to a text in `room` bytes. -/
def strncat (room : Nat) (text s : List Char) : Logged Access (List Char) :=
  let text' := text ++ s.take bufLen32
  .access (.copy (text'.length + 1) room) (if text'.length < room then some text' else none)

/-- The loop over the indices that are left. -/
def appendRanges (range : Nat → Logged Access (Int × Int)) (room : Nat) :
    List Nat → List Char → Logged Access (List Char)
  | [], text => return text
  | index :: rest, text => do
    let r ← range index
    let text ← strncat room text (snprintf32 (rangeText r))
    appendRanges range room rest text

/-- A NUL in place of the last byte of a text: there is none before an empty one. -/
def cutLast (text : List Char) : Logged Access (List Char) :=
  .access (.read (text.length - 1) 1 text.length) (if text = [] then none else some text.dropLast)

/-- `WanManager_CalculateMAPTPortRange`, which appends to the text in `room` bytes. -/
def calculateMAPTPortRange (t : Target) (offset psidLen psid : Int) (room : Nat)
    (text : List Char) : Logged Access (List Char) := do
  let plan ← portPlan t (portOffset offset) psidLen
  let text ← appendRanges (portRange t plan psid) room plan.indices text
  cutLast text

/-! ## The ranges -/

/-- The range of an index, when every shift is defined. -/
def rangeAt (a k s index : Nat) : Int × Int :=
  let first := index * 2 ^ (16 - a) + s * 2 ^ (16 - (k + a))
  (first, (first + (2 ^ (16 - (k + a)) - 1) : Nat))

/-- The offset, the length of the PSID and the PSID fit into the number of a port. -/
structure Divides (a k s : Nat) : Prop where
  pos : 1 ≤ a
  le : a + k ≤ 16
  psid : s < 2 ^ k

theorem two_pow_split {a k : Nat} (h : a + k ≤ 16) :
    2 ^ (16 - a) = 2 ^ k * 2 ^ (16 - (k + a)) ∧ 2 ^ a * 2 ^ (16 - a) = 65536 := by
  constructor
  · rw [← Nat.pow_add]
    congr 1
    omega
  · rw [← Nat.pow_add, show a + (16 - a) = 16 by omega]

/-- A port lies in the range of an index exactly when its first bits are the index and the next
ones the PSID. -/
theorem mem_rangeAt {a k s index : Nat} {port : Int} (h : Divides a k s) :
    (rangeAt a k s index).1 ≤ port ∧ port ≤ (rangeAt a k s index).2 ↔
      ∃ n : Nat, port = n ∧ n / 2 ^ (16 - a) = index ∧ n / 2 ^ (16 - (k + a)) % 2 ^ k = s := by
  have hpsid := h.psid
  have hpos := Nat.two_pow_pos (16 - (k + a))
  have hsplit := (two_pow_split h.le).1
  simp only [rangeAt, hsplit]
  generalize 2 ^ (16 - (k + a)) = low at hpos
  generalize 2 ^ k = many at hpsid
  have hfirst : index * (many * low) + s * low = low * (index * many + s) := by ring
  have hnat (n : Nat) : n / (many * low) = index ∧ n / low % many = s ↔
      n / low = index * many + s := by
    rw [Nat.mul_comm many, ← Nat.div_div_eq_div_mul, Nat.div_mod_unique (by omega)]
    constructor
    · rintro ⟨hn, -⟩
      rw [← hn]
      ring
    · intro hn
      exact ⟨by rw [hn]; ring, hpsid⟩
  have hdiv (n : Nat) : n / low = index * many + s ↔
      low * (index * many + s) ≤ n ∧ n ≤ low * (index * many + s) + (low - 1) := by
    rw [Nat.div_eq_iff hpos, Nat.mul_comm]
    omega
  rw [hfirst]
  constructor
  · rintro ⟨hle, hge⟩
    obtain ⟨n, rfl⟩ := Int.eq_ofNat_of_zero_le (le_trans (Int.natCast_nonneg _) hle)
    exact ⟨n, rfl, (hnat n).mpr ((hdiv n).mpr ⟨by omega, by omega⟩)⟩
  · rintro ⟨n, rfl, hn⟩
    obtain ⟨hle, hge⟩ := (hdiv n).mp ((hnat n).mp hn)
    omega

theorem rangeAt_lt {a k s index : Nat} (h : Divides a k s) (hi : index < 2 ^ a) :
    (rangeAt a k s index).2 < 65536 := by
  have hle := h.le
  obtain ⟨hsplit, hall⟩ := two_pow_split hle
  have hpos := Nat.two_pow_pos (16 - (k + a))
  have hs : (s + 1) * 2 ^ (16 - (k + a)) ≤ 2 ^ (16 - a) := by
    rw [hsplit]
    exact Nat.mul_le_mul_right _ h.psid
  have hindex : (index + 1) * 2 ^ (16 - a) ≤ 65536 := by
    rw [← hall]
    exact Nat.mul_le_mul_right _ hi
  rw [Nat.add_mul, Nat.one_mul] at hs hindex
  simp only [rangeAt]
  omega

theorem int32_of_lt {n : Int} (h0 : 0 ≤ n) (h : n < 2 ^ 31) : int32 n = n := by
  unfold int32
  rw [BitVec.toInt_ofInt]
  exact Int.bmod_eq_of_le (by omega) (by omega)

theorem bits32_of_lt {n : Nat} (h : n < 2 ^ 32) : bits32 n = n := by
  unfold bits32
  rw [BitVec.ofInt_natCast, BitVec.toNat_ofNat, Nat.mod_eq_of_lt h]

/-- A shift to the left that loses no bit. -/
theorem value_shiftLeft_of_lt {t : Target} {v n : Nat} (hn : n < 32) (h : v * 2 ^ n < 2 ^ 32) :
    (shiftLeft t v n).value = some (v * 2 ^ n) := by
  have hn' : (0 : Int) ≤ n ∧ (n : Int) < 32 := by omega
  simp only [shiftLeft, Logged.value_access, hn', and_self, if_true, Int.toNat_natCast,
    Nat.mod_eq_of_lt h]

/-- The plan of an offset and a length that divide the number of a port. -/
def planOf (a k : Nat) : PortPlan where
  a := (2 ^ a : Nat)
  m := (16 - (k + a) : Nat)
  contigousPort := 2 ^ (16 - (k + a))
  ratio := (16 - a : Nat)

@[simp] theorem planOf_m (a k : Nat) : (planOf a k).m = (16 - (k + a) : Nat) := rfl

@[simp] theorem planOf_ratio (a k : Nat) : (planOf a k).ratio = (16 - a : Nat) := rfl

@[simp] theorem planOf_contigousPort (a k : Nat) :
    (planOf a k).contigousPort = 2 ^ (16 - (k + a)) := rfl

theorem two_pow_le {n : Nat} (h : n ≤ 16) : 2 ^ n ≤ 65536 :=
  Nat.pow_le_pow_right (by decide) h

theorem value_portPlan {t : Target} {a k : Nat} (h : a + k ≤ 16) :
    (portPlan t a k).value = some (planOf a k) := by
  have hm : (16 : Int) - (k + a) = (16 - (k + a) : Nat) := by omega
  have hratio : (16 : Int) - a = (16 - a : Nat) := by omega
  have ha : 2 ^ a ≤ 65536 := two_pow_le (by omega)
  have hlow : 2 ^ (16 - (k + a)) ≤ 65536 := two_pow_le (by omega)
  have hint : int32 (2 ^ a : Nat) = (2 ^ a : Nat) :=
    int32_of_lt (Int.natCast_nonneg _) (lt_of_le_of_lt (Int.ofNat_le.mpr ha) (by decide))
  unfold portPlan
  rw [hm, hratio, Logged.value_bind, value_shiftLeft_of_lt (by omega) (by omega), Option.bind_some,
    Logged.value_bind, value_shiftLeft_of_lt (by omega) (by omega), Option.bind_some,
    Nat.one_mul, Nat.one_mul, hint]
  rfl

/-- A plan is made with shifts that are defined exactly when the offset and the length divide the
number of a port. -/
theorem clean_portPlan {t : Target} {a k : Nat} :
    (portPlan t a k).Clean Access.Legal ↔ a + k ≤ 16 := by
  unfold portPlan
  refine (Logged.clean_bind_iff fun a' _ => ?_).trans (and_congr_left' clean_shiftLeft) |>.trans
    (b := (0 ≤ (a : Int) ∧ (a : Int) < 32) ∧ 0 ≤ 16 - ((k : Int) + a) ∧ 16 - ((k : Int) + a) < 32) ?_
  · rw [Logged.clean_bind, clean_shiftLeft]
    simp
  · omega

theorem mem_indices {a k index : Nat} :
    index ∈ (planOf a k).indices ↔ 1 ≤ index ∧ index < 2 ^ a := by
  have hpos := Nat.two_pow_pos a
  rw [PortPlan.indices, List.mem_range'_1]
  show 1 ≤ index ∧ index < 1 + (((2 ^ a : Nat) : Int) - 1).toNat ↔ _
  omega

theorem value_portRange {t : Target} {a k s index : Nat} (h : Divides a k s) (hi : index < 2 ^ a) :
    (portRange t (planOf a k) s index).value = some (rangeAt a k s index) := by
  have hle := h.le
  have hlt := rangeAt_lt h hi
  have hpos := Nat.two_pow_pos (16 - (k + a))
  have hk : 2 ^ k ≤ 65536 := two_pow_le (by omega)
  have hpsid := h.psid
  simp only [rangeAt] at hlt
  have hhigh : index * 2 ^ (16 - a) < 2 ^ 32 := by omega
  have hlow : s * 2 ^ (16 - (k + a)) < 2 ^ 32 := by omega
  have hfirst : int32 (index * 2 ^ (16 - a) + s * 2 ^ (16 - (k + a)) : Nat) =
      (index * 2 ^ (16 - a) + s * 2 ^ (16 - (k + a)) : Nat) := int32_of_lt (by omega) (by omega)
  have hlast : int32 ((index * 2 ^ (16 - a) + s * 2 ^ (16 - (k + a)) : Nat) +
      ((2 ^ (16 - (k + a)) : Nat) - 1)) =
        (index * 2 ^ (16 - a) + s * 2 ^ (16 - (k + a)) + (2 ^ (16 - (k + a)) - 1) : Nat) := by
    rw [int32_of_lt (by omega) (by omega)]
    omega
  unfold portRange
  rw [planOf_ratio, planOf_m, planOf_contigousPort, Logged.value_bind,
    value_shiftLeft_of_lt (by omega) hhigh, Option.bind_some, bits32_of_lt (by omega),
    Logged.value_bind, value_shiftLeft_of_lt (by omega) hlow, Option.bind_some,
    ← Int.natCast_add, hfirst]
  simp only [hlast, Logged.value_pure, rangeAt]

theorem clean_portRange {t : Target} {a k : Nat} {psid : Int} {index : Nat} :
    (portRange t (planOf a k) psid index).Clean Access.Legal := by
  unfold portRange
  rw [planOf_ratio, planOf_m, Logged.clean_bind, clean_shiftLeft]
  refine ⟨by omega, fun high _ => ?_⟩
  rw [Logged.clean_bind, clean_shiftLeft]
  exact ⟨by omega, fun low _ => Logged.clean_pure _⟩

/-! ## The partition -/

theorem mapM'_of_forall {A α β : Type} {legal : A → Prop} {f : α → Wire.Logged A β} {g : α → β} {l : List α}
    (h : ∀ a ∈ l, (f a).Clean legal ∧ (f a).value = some (g a)) :
    (l.mapM' f).Clean legal ∧ (l.mapM' f).value = some (l.map g) := by
  induction l with
  | nil => exact ⟨Logged.clean_pure _, rfl⟩
  | cons a l ih =>
    obtain ⟨⟨hc, hv⟩, hl⟩ := List.forall_mem_cons.mp h
    obtain ⟨ihc, ihv⟩ := ih hl
    rw [List.mapM'_cons, Logged.clean_bind_of hc hv, Logged.clean_bind_of ihc ihv, Logged.value_bind,
      hv, Option.bind_some, Logged.value_bind, ihv]
    exact ⟨Logged.clean_pure _, rfl⟩

/-- The ranges are those of the indices from 1 on. -/
theorem portRanges_eq {t : Target} {a k s : Nat} (h : Divides a k s) :
    (portRanges t a k s).Clean Access.Legal ∧
      (portRanges t a k s).value = some ((planOf a k).indices.map (rangeAt a k s)) := by
  have hpos := h.pos
  have hoffset : portOffset a = a := if_neg (by omega)
  have hclean : (portPlan t a k).Clean Access.Legal := clean_portPlan.mpr h.le
  have hvalue : (portPlan t a k).value = some (planOf a k) := value_portPlan h.le
  unfold portRanges
  rw [hoffset, Logged.clean_bind_of hclean hvalue, Logged.value_bind, hvalue]
  exact mapM'_of_forall fun index hi =>
    ⟨clean_portRange, value_portRange h (mem_indices.mp hi).2⟩

/-- The ports in the ranges of a PSID. -/
def portSet (t : Target) (offset psidLen psid : Int) : Set Int :=
  {port | ∃ ranges, (portRanges t offset psidLen psid).value = some ranges ∧
    ∃ r ∈ ranges, r.1 ≤ port ∧ port ≤ r.2}

/-- The ports of a PSID are those that have it behind an index that is not 0. -/
theorem mem_portSet {t : Target} {a k s : Nat} {port : Int} (h : Divides a k s) :
    port ∈ portSet t a k s ↔ ∃ n : Nat, port = n ∧ 2 ^ (16 - a) ≤ n ∧ n < 65536 ∧
      n / 2 ^ (16 - (k + a)) % 2 ^ k = s := by
  have hpos := Nat.two_pow_pos (16 - a)
  have hall := (two_pow_split h.le).2
  have hindex (n : Nat) : 1 ≤ n / 2 ^ (16 - a) ∧ n / 2 ^ (16 - a) < 2 ^ a ↔
      2 ^ (16 - a) ≤ n ∧ n < 65536 := by
    rw [Nat.one_le_div_iff hpos, Nat.div_lt_iff_lt_mul hpos, hall]
  simp only [portSet, (portRanges_eq h).2, Set.mem_ofPred_eq, Option.some.injEq, exists_eq_left']
  constructor
  · rintro ⟨r, hr, hport⟩
    obtain ⟨index, hi, rfl⟩ := List.mem_map.mp hr
    obtain ⟨n, rfl, rfl, hs⟩ := (mem_rangeAt h).mp hport
    obtain ⟨hle, hlt⟩ := (hindex n).mp (mem_indices.mp hi)
    exact ⟨n, rfl, hle, hlt, hs⟩
  · rintro ⟨n, rfl, hle, hlt, hs⟩
    have hi := (mem_indices (k := k)).mpr ((hindex n).mpr ⟨hle, hlt⟩)
    exact ⟨_, List.mem_map_of_mem hi, (mem_rangeAt h).mpr ⟨n, rfl, rfl, hs⟩⟩

/-- Each range is one of ports. -/
theorem ranges_bounds {t : Target} {a k s : Nat} (h : Divides a k s) :
    (portRanges t a k s).Clean Access.Legal ∧
      ∃ ranges, (portRanges t a k s).value = some ranges ∧
        ∀ r ∈ ranges, 0 ≤ r.1 ∧ r.1 ≤ r.2 ∧ r.2 ≤ 65535 := by
  obtain ⟨hclean, hvalue⟩ := @portRanges_eq t a k s h
  refine ⟨hclean, _, hvalue, fun r hr => ?_⟩
  obtain ⟨index, hi, rfl⟩ := List.mem_map.mp hr
  have hlt := rangeAt_lt h (mem_indices.mp hi).2
  have hpos := Nat.two_pow_pos (16 - (k + a))
  simp only [rangeAt] at hlt ⊢
  omega

theorem portSet_disjoint {t : Target} {a k s s' : Nat} (h : Divides a k s) (h' : Divides a k s')
    (hne : s ≠ s') : Disjoint (portSet t a k s) (portSet t a k s') := by
  rw [Set.disjoint_left]
  intro port hport hport'
  obtain ⟨n, rfl, -, -, hn⟩ := (mem_portSet h).mp hport
  obtain ⟨n', hn', -, -, hs'⟩ := (mem_portSet h').mp hport'
  obtain rfl : n = n' := by omega
  exact hne (hn.symm.trans hs')

theorem iUnion_portSet {t : Target} {a k : Nat} (ha : 1 ≤ a) (hk : a + k ≤ 16) :
    ⋃ s : Fin (2 ^ k), portSet t a k s.val = Set.Icc (2 ^ (16 - a)) 65535 := by
  ext port
  rw [Set.mem_iUnion, Set.mem_Icc]
  constructor
  · rintro ⟨s, hport⟩
    obtain ⟨n, rfl, hle, hlt, -⟩ := (mem_portSet ⟨ha, hk, s.isLt⟩).mp hport
    exact ⟨by exact_mod_cast hle, by omega⟩
  · rintro ⟨hle, hlt⟩
    obtain ⟨n, rfl⟩ := Int.eq_ofNat_of_zero_le (le_trans (by positivity) hle)
    have hmod := Nat.mod_lt (n / 2 ^ (16 - (k + a))) (Nat.two_pow_pos k)
    exact ⟨⟨_, hmod⟩, (mem_portSet ⟨ha, hk, hmod⟩).mpr
      ⟨n, rfl, by exact_mod_cast hle, by omega, rfl⟩⟩

/-- The ranges of the PSIDs of a length share out the ports from the first index on: each range
is one of ports, those of two PSIDs have none in common, and together they have them all. -/
theorem ports_partition {t : Target} {a k : Nat} (ha : 1 ≤ a) (hk : a + k ≤ 16) :
    (∀ s : Nat, s < 2 ^ k → (portRanges t a k s).Clean Access.Legal ∧
      ∃ ranges, (portRanges t a k s).value = some ranges ∧
        ∀ r ∈ ranges, 0 ≤ r.1 ∧ r.1 ≤ r.2 ∧ r.2 ≤ 65535) ∧
    (∀ s s' : Nat, s < 2 ^ k → s' < 2 ^ k → s ≠ s' →
      Disjoint (portSet t a k s) (portSet t a k s')) ∧
    ⋃ s : Fin (2 ^ k), portSet t a k s.val = Set.Icc (2 ^ (16 - a)) 65535 := by
  refine ⟨fun s hs => ranges_bounds ⟨ha, hk, hs⟩, fun s s' hs hs' hne => ?_, iUnion_portSet ha hk⟩
  exact portSet_disjoint ⟨ha, hk, hs⟩ ⟨ha, hk, hs'⟩ hne

/-- A target on which every shift that is not defined yields 0. -/
def zeroShifts : Target := ⟨fun _ _ => 0, fun _ _ => 0⟩

/-- With 64 indices, 256 PSIDs and 4 ports in a range. -/
theorem ports_partition_six :
    (∀ s : Nat, s < 2 ^ 8 → (portRanges zeroShifts (6 : Nat) (8 : Nat) s).Clean Access.Legal ∧
      ∃ ranges, (portRanges zeroShifts (6 : Nat) (8 : Nat) s).value = some ranges ∧
        ∀ r ∈ ranges, 0 ≤ r.1 ∧ r.1 ≤ r.2 ∧ r.2 ≤ 65535) ∧
    (∀ s s' : Nat, s < 2 ^ 8 → s' < 2 ^ 8 → s ≠ s' →
      Disjoint (portSet zeroShifts (6 : Nat) (8 : Nat) s)
        (portSet zeroShifts (6 : Nat) (8 : Nat) s')) ∧
    ⋃ s : Fin (2 ^ 8), portSet zeroShifts (6 : Nat) (8 : Nat) s.val =
      Set.Icc (2 ^ (16 - 6)) 65535 :=
  ports_partition (by decide) (by decide)

/-! ## The text -/

/-- The ranges with a comma between any two. -/
def rangesText (ranges : List (Int × Int)) : List Char :=
  [','].intercalate (ranges.map fun r => r.1.repr.toList ++ ',' :: r.2.repr.toList)

/-- The text for the caller's buffer fits into it with its NUL, and has every range. -/
def TextFits (t : Target) (offset psidLen psid : Int) : Prop :=
  (calculateMAPTPortRange t offset psidLen psid bufLen1024 []).Clean Access.Legal ∧
    ∃ ranges text, (portRanges t offset psidLen psid).value = some ranges ∧
      (calculateMAPTPortRange t offset psidLen psid bufLen1024 []).value = some text ∧
      text = rangesText ranges ∧ text.length < bufLen1024

/-- Texts of ranges in a row, less the comma at their end. -/
theorem dropLast_rangeTexts (ranges : List (Int × Int)) :
    (ranges.flatMap rangeText).dropLast = rangesText ranges := by
  induction ranges with
  | nil => rfl
  | cons r ranges ih =>
    have hr : rangeText r = (r.1.repr.toList ++ ',' :: r.2.repr.toList) ++ [','] := by
      simp [rangeText]
    cases ranges with
    | nil =>
      rw [List.flatMap_cons, List.flatMap_nil, List.append_nil, hr, List.dropLast_concat, rangesText,
        List.map_cons, List.map_nil, List.intercalate_singleton]
    | cons r' ranges =>
      have hne : (r' :: ranges).flatMap rangeText ≠ [] := by simp [rangeText]
      rw [List.flatMap_cons, List.dropLast_append_of_ne_nil hne, ih, hr]
      simp [rangesText, List.intercalate]

/-- The loop goes through as long as there is room for what it appends and a NUL. -/
theorem appendRanges_spec {range : Nat → Logged Access (Int × Int)} {rangeOf : Nat → Int × Int}
    {room : Nat} {indices : List Nat} {text : List Char}
    (h : ∀ i ∈ indices, (range i).Clean Access.Legal ∧ (range i).value = some (rangeOf i) ∧
      (rangeText (rangeOf i)).length < bufLen32) (htext : text.length < room) :
    let all := text ++ (indices.map rangeOf).flatMap rangeText
    ((appendRanges range room indices text).Clean Access.Legal ↔ all.length < room) ∧
      (all.length < room → (appendRanges range room indices text).value = some all) := by
  induction indices generalizing text with
  | nil => simp [appendRanges, htext]
  | cons i indices ih =>
    obtain ⟨⟨hclean, hvalue, hlen⟩, hrest⟩ := List.forall_mem_cons.mp h
    have hprint : snprintf32 (rangeText (rangeOf i)) = rangeText (rangeOf i) :=
      List.take_of_length_le (by omega)
    have hcat : strncat room text (rangeText (rangeOf i)) =
        .access (.copy ((text ++ rangeText (rangeOf i)).length + 1) room)
          (if (text ++ rangeText (rangeOf i)).length < room then
            some (text ++ rangeText (rangeOf i)) else none) := by
      simp only [strncat, List.take_of_length_le (Nat.le_of_lt hlen)]
    simp only [appendRanges, Logged.clean_bind_of hclean hvalue, Logged.value_bind, hvalue,
      Option.bind_some, hprint, hcat, Logged.value_access, List.map_cons, List.flatMap_cons,
      ← List.append_assoc]
    by_cases hroom : (text ++ rangeText (rangeOf i)).length < room
    · have hc : (Logged.access (Access.copy ((text ++ rangeText (rangeOf i)).length + 1) room)
          (if (text ++ rangeText (rangeOf i)).length < room then
            some (text ++ rangeText (rangeOf i)) else none)).Clean Access.Legal := by
        rw [Logged.clean_access, if_pos hroom]
        exact ⟨rfl, hroom⟩
      rw [Logged.clean_bind_of hc (if_pos hroom), if_pos hroom, Option.bind_some]
      exact ih hrest hroom
    · have hall : ¬ (text ++ rangeText (rangeOf i) ++
          (indices.map rangeOf).flatMap rangeText).length < room := by
        rw [List.length_append]
        omega
      simp only [hall, iff_false, false_implies, and_true]
      intro hc
      have := (Logged.clean_access.mp (Logged.clean_bind.mp hc).1).1
      rw [if_neg hroom] at this
      contradiction

theorem length_rangeText (m n : Nat) :
    (rangeText (m, n)).length = m.repr.length + n.repr.length + 2 := by
  show (m.repr.toList ++ ',' :: (n.repr.toList ++ [','])).length = _
  simp only [List.length_append, List.length_cons, List.length_nil, String.length_toList]
  omega

theorem length_rangeText_le {a k s i : Nat} (h : Divides a k s) (hi : i < 2 ^ a) :
    (rangeText (rangeAt a k s i)).length ≤ 12 := by
  have hlt := rangeAt_lt h hi
  simp only [rangeAt] at hlt ⊢
  rw [length_rangeText]
  have hfirst := Nat.length_repr_le_iff (n := i * 2 ^ (16 - a) + s * 2 ^ (16 - (k + a)))
    (show 0 < 5 by decide)
  have hlast := Nat.length_repr_le_iff (k := 5)
    (n := i * 2 ^ (16 - a) + s * 2 ^ (16 - (k + a)) + (2 ^ (16 - (k + a)) - 1)) (by decide)
  omega

/-- From a quarter of the indices on, both numbers have five digits. -/
theorem le_length_rangeText {a k s i : Nat} (h : Divides a k s) (h2 : 2 ≤ a)
    (hi : 2 ^ (a - 2) ≤ i) : 12 ≤ (rangeText (rangeAt a k s i)).length := by
  have hle := h.le
  have hpow : 2 ^ (a - 2) * 2 ^ (16 - a) = 16384 := by
    rw [← Nat.pow_add, show a - 2 + (16 - a) = 14 by omega]
  have hfirst : 16384 ≤ i * 2 ^ (16 - a) := by
    rw [← hpow]
    exact Nat.mul_le_mul_right _ hi
  simp only [rangeAt]
  rw [length_rangeText]
  have h4 (n : Nat) (hn : 16384 ≤ n) : 5 ≤ n.repr.length := by
    by_contra hlt
    have := (Nat.length_repr_le_iff (n := n) (k := 4) (by decide)).mp (by omega)
    omega
  have h1 := h4 (i * 2 ^ (16 - a) + s * 2 ^ (16 - (k + a))) (by omega)
  have h2 := h4 (i * 2 ^ (16 - a) + s * 2 ^ (16 - (k + a)) + (2 ^ (16 - (k + a)) - 1)) (by omega)
  omega

theorem indices_planOf (a k : Nat) : (planOf a k).indices = List.range' 1 (2 ^ a - 1) := by
  have hpos := Nat.two_pow_pos a
  have hlen : (((2 ^ a : Nat) : Int) - 1).toNat = 2 ^ a - 1 := by omega
  exact congrArg (List.range' 1) hlen

/-- All of the ranges take less than 1024 bytes exactly when the offset has at most six bits. -/
theorem length_texts_lt {a k s : Nat} (h : Divides a k s) :
    (((planOf a k).indices.map (rangeAt a k s)).flatMap rangeText).length < bufLen1024 ↔
      a ≤ 6 := by
  rw [indices_planOf, List.flatMap_map, List.length_flatMap]
  show _ < 1024 ↔ _
  constructor
  · intro hlt
    by_contra h7
    have hpow : 2 ^ 5 ≤ 2 ^ (a - 2) := Nat.pow_le_pow_right (by decide) (by omega)
    have hsplit : 2 ^ a = 4 * 2 ^ (a - 2) := by
      rw [show a = a - 2 + 2 by omega, Nat.pow_add, Nat.mul_comm]
      rfl
    have hranges : List.range' 1 (2 ^ a - 1) = List.range' 1 (2 ^ (a - 2) - 1) ++
        List.range' (2 ^ (a - 2)) (3 * 2 ^ (a - 2)) := by
      have happend := @List.range'_append_1 1 (2 ^ (a - 2) - 1) (3 * 2 ^ (a - 2))
      rw [show 1 + (2 ^ (a - 2) - 1) = 2 ^ (a - 2) by omega] at happend
      rw [happend]
      congr 1
      omega
    have hsum := List.card_nsmul_le_sum
      ((List.range' (2 ^ (a - 2)) (3 * 2 ^ (a - 2))).map fun i => (rangeText (rangeAt a k s i)).length)
      12 (by
        intro n hn
        obtain ⟨i, hi, rfl⟩ := List.mem_map.mp hn
        exact le_length_rangeText h (by omega) (List.mem_range'_1.mp hi).1)
    rw [hranges, List.map_append, List.sum_append] at hlt
    rw [List.length_map, List.length_range', smul_eq_mul] at hsum
    omega
  · intro h6
    have hpow : 2 ^ a ≤ 2 ^ 6 := Nat.pow_le_pow_right (by decide) h6
    have hsum := List.sum_le_card_nsmul
      ((List.range' 1 (2 ^ a - 1)).map fun i => (rangeText (rangeAt a k s i)).length) 12 (by
        intro n hn
        obtain ⟨i, hi, rfl⟩ := List.mem_map.mp hn
        exact length_rangeText_le h (by have := List.mem_range'_1.mp hi; omega))
    rw [List.length_map, List.length_range', smul_eq_mul] at hsum
    omega

/-- The loop for a buffer of `room` bytes. -/
theorem loop_spec {t : Target} {a k s room : Nat} (h : Divides a k s) (hroom : 0 < room) :
    let all := ((planOf a k).indices.map (rangeAt a k s)).flatMap rangeText
    ((appendRanges (portRange t (planOf a k) s) room (planOf a k).indices []).Clean Access.Legal ↔
        all.length < room) ∧
      (all.length < room →
        (appendRanges (portRange t (planOf a k) s) room (planOf a k).indices []).value = some all) := by
  refine appendRanges_spec (fun i hi => ⟨clean_portRange, value_portRange h ?_, ?_⟩) hroom
  · exact (mem_indices.mp hi).2
  · exact Nat.lt_of_le_of_lt (length_rangeText_le h (mem_indices.mp hi).2) (by decide)

theorem texts_ne_nil {a k s : Nat} (h : Divides a k s) :
    ((planOf a k).indices.map (rangeAt a k s)).flatMap rangeText ≠ [] := by
  have hpos := h.pos
  have hpow : 2 ^ 1 ≤ 2 ^ a := Nat.pow_le_pow_right (by decide) hpos
  have hmem : 1 ∈ (planOf a k).indices := mem_indices.mpr ⟨le_rfl, by omega⟩
  intro hnil
  have := List.flatMap_eq_nil_iff.mp hnil _ (List.mem_map_of_mem hmem)
  simp [rangeText] at this

/-- In a buffer with room for all of them, `WanManager_CalculateMAPTPortRange` writes the ranges, whatever
the offset. -/
theorem calculateMAPTPortRange_writes {t : Target} {offset a k s room : Nat} (ha : portOffset offset = a)
    (h : Divides a k s) {ranges : List (Int × Int)} (hranges : (portRanges t a k s).value = some ranges)
    (hroom : (ranges.flatMap rangeText).length < room) :
    (calculateMAPTPortRange t offset k s room []).Clean Access.Legal ∧
      (calculateMAPTPortRange t offset k s room []).value = some (rangesText ranges) := by
  obtain rfl : (planOf a k).indices.map (rangeAt a k s) = ranges :=
    Option.some.inj ((portRanges_eq h).2.symm.trans hranges)
  have hne := texts_ne_nil h
  obtain ⟨hloop, hall⟩ := loop_spec (t := t) h (Nat.zero_lt_of_lt hroom)
  unfold calculateMAPTPortRange
  rw [ha, Logged.clean_bind_of (clean_portPlan.mpr h.le) (value_portPlan h.le),
    Logged.clean_bind_of (hloop.mpr hroom) (hall hroom), Logged.value_bind, value_portPlan h.le,
    Option.bind_some, Logged.value_bind, hall hroom, Option.bind_some, ← dropLast_rangeTexts]
  refine ⟨?_, if_neg hne⟩
  rw [cutLast, Logged.clean_access, if_neg hne]
  have := List.length_pos_iff.mpr hne
  exact ⟨rfl, .inr (by omega)⟩

/-- The text of a PSID fits exactly when the offset that is used has at most six bits, and it and
the PSID no more than sixteen. -/
theorem textFits_portOffset {t : Target} {offset a k s : Nat} (ha : portOffset offset = a)
    (hs : k ≤ 16 → s < 2 ^ k) : TextFits t offset k s ↔ a ≤ 6 ∧ a + k ≤ 16 := by
  have hpos : 1 ≤ a := by
    unfold portOffset at ha
    split at ha <;> omega
  have hranges : (portRanges t offset k s).value = (portRanges t a k s).value := by
    have hself : portOffset a = a := if_neg (by omega)
    rw [portRanges, portRanges, ha, hself]
  constructor
  · rintro ⟨hclean, -⟩
    unfold calculateMAPTPortRange at hclean
    rw [ha] at hclean
    have hle : a + k ≤ 16 := clean_portPlan.mp (Logged.clean_bind.mp hclean).1
    have h : Divides a k s := ⟨hpos, hle, hs (by omega)⟩
    rw [Logged.clean_bind_of (clean_portPlan.mpr hle) (value_portPlan hle)] at hclean
    exact ⟨(length_texts_lt h).mp ((loop_spec h (by decide)).1.mp (Logged.clean_bind.mp hclean).1), hle⟩
  · rintro ⟨h6, hle⟩
    have h : Divides a k s := ⟨hpos, hle, hs (by omega)⟩
    have hvalue := (portRanges_eq (t := t) h).2
    have hlt := (length_texts_lt h).mpr h6
    obtain ⟨hclean, htext⟩ := calculateMAPTPortRange_writes (t := t) ha h hvalue hlt
    refine ⟨hclean, _, _, hranges.trans hvalue, htext, rfl, ?_⟩
    rw [← dropLast_rangeTexts, List.length_dropLast]
    omega

/-! ## What the parser accepts -/

/-- A PSID that was taken out of its field is one of its length. -/
def PsidFits (d : MaptData) : Prop := d.psidLen ≤ 16 → d.psid < 2 ^ d.psidLen

theorem PsidFits.readPortParams {t : Target} {cur : List UInt8} {offset optLen : Nat}
    {d d' : MaptData} (h : (readPortParams t cur offset optLen d).value = some d') : PsidFits d' := by
  obtain ⟨psidOffset, -, h⟩ := Logged.of_value_bind h
  obtain ⟨psidLen, -, h⟩ := Logged.of_value_bind h
  obtain ⟨ratio, -, h⟩ := Logged.of_value_bind h
  obtain ⟨bytes, -, h⟩ := Logged.of_value_bind h
  obtain ⟨psid, hpsid, h⟩ := Logged.of_value_bind h
  obtain rfl := Option.some.inj h
  intro hle
  simp only [storePortParams] at hle ⊢
  have hshift : (0 : Int) ≤ 16 - (psidLen.toNat : Int) ∧ 16 - (psidLen.toNat : Int) < 32 := by omega
  have hcount : (16 - (psidLen.toNat : Int)).toNat = 16 - psidLen.toNat := by omega
  rw [shiftRight, Logged.value_access, if_pos hshift, hcount, Option.some.injEq] at hpsid
  have hfield : ntohs (bytes.getD 0 0) (bytes.getD 1 0) < 65536 := by
    have h0 := (bytes.getD 0 0).toNat_lt
    have h1 := (bytes.getD 1 0).toNat_lt
    unfold ntohs
    omega
  have hsplit : 2 ^ psidLen.toNat * 2 ^ (16 - psidLen.toNat) = 65536 := by
    rw [← Nat.pow_add, show psidLen.toNat + (16 - psidLen.toNat) = 16 by omega]
  have hlt : psid < 2 ^ psidLen.toNat := by
    rw [← hpsid, Nat.div_lt_iff_lt_mul (Nat.two_pow_pos _), hsplit]
    exact hfield
  have := Nat.mod_le psid 65536
  omega

theorem PsidFits.parseOption {inetNtop : List UInt8 → String} {t : Target} {o : Found}
    {d d' : MaptData} (hd : PsidFits d) (h : (parseOption inetNtop t o d).value = some d') :
    PsidFits d' := by
  unfold Mapt.parseOption at h
  split at h
  · obtain ⟨r, -, h⟩ := Logged.of_value_bind h
    obtain ⟨ratio, -, h⟩ := Logged.of_value_bind h
    simp only at h
    split at h
    · obtain ⟨-, h⟩ | ⟨-, rfl⟩ := parsePortParams_eq h
      · exact PsidFits.readPortParams h
      · exact hd
    · obtain rfl := Option.some.inj h
      exact hd
  · split at h
    · obtain ⟨len, -, h⟩ := Logged.of_value_bind h
      obtain ⟨bytes, -, h⟩ := Logged.of_value_bind h
      obtain ⟨-, -, h⟩ := Logged.of_value_bind h
      obtain rfl := Option.some.inj h
      exact hd
    · obtain rfl := Option.some.inj h
      exact hd

theorem PsidFits.parseOptions {inetNtop : List UInt8 → String} {t : Target} {os : List Found}
    {d d' : MaptData} (hd : PsidFits d) (h : (parseOptions inetNtop t os d).value = some d') :
    PsidFits d' := by
  induction os generalizing d with
  | nil =>
    obtain rfl := Option.some.inj h
    exact hd
  | cons o os ih =>
    rw [parseOptions_cons] at h
    obtain ⟨d₁, hd₁, h⟩ := Logged.of_value_bind h
    exact ih (hd.parseOption hd₁) h

/-- The text of what the parser accepts fits exactly when the offset that is used has at most six
bits, and it and the PSID no more than sixteen. -/
theorem textFits_iff {inet : Inet} {t : Target} {pd : List Char} {text : List UInt8}
    {p : MaptParams} (h : (maptParseOpt95Response inet t pd text).value = some (some p)) :
    TextFits t p.psidOffset p.psidLen p.psid ↔
      portOffset p.psidOffset ≤ 6 ∧ portOffset p.psidOffset + p.psidLen ≤ 16 := by
  obtain ⟨buf, len, pd', d, -, -, -, -, hread, -, -, -, -, rfl⟩ := parsed h
  have hzeroed : PsidFits { pdIPv6Prefix := pd'.1, pdIPv6PrefixLen := pd'.2 } :=
    fun _ => Nat.one_pos
  have hpsid := hzeroed.parseOptions hread
  obtain ⟨a, ha⟩ : ∃ a : Nat, portOffset (fillParams d).psidOffset = a := by
    unfold portOffset
    split
    · exact ⟨6, rfl⟩
    · exact ⟨_, rfl⟩
  have hfits := textFits_portOffset (t := t) (k := (fillParams d).psidLen)
    (s := (fillParams d).psid) ha hpsid
  rw [hfits, ha]
  omega

/-- A rule for the address 192.0.2.1 that shares it by a PSID of four bits at an offset, and a
default mapping rule. -/
def sharedPayload (psidOffset : UInt8) : List UInt8 :=
  let rule := [0, 0, 32, 192, 0, 2, 1, 40] ++ delegated.take 5 ++ [0, 93, 0, 4, psidOffset, 4, 80, 0]
  [0, 89] ++ htons rule.length ++ rule ++ [0, 91, 0, 5, 32, 0x20, 0x01, 0x0d, 0xb8]

theorem textFits_shared :
    ∃ p, (maptParseOpt95Response oneAddress zeroShifts "2001:db8:4000::/40".toList
        (payloadText (sharedPayload 6))).value = some (some p) ∧
      (TextFits zeroShifts p.psidOffset p.psidLen p.psid ↔
        portOffset p.psidOffset ≤ 6 ∧ portOffset p.psidOffset + p.psidLen ≤ 16) := by
  have hrun : ((maptParseOpt95Response oneAddress zeroShifts "2001:db8:4000::/40".toList
      (payloadText (sharedPayload 6))).value.bind id).isSome := by
    decide +kernel
  obtain ⟨p, hp⟩ := Option.isSome_iff_exists.mp hrun
  obtain ⟨_, hp, rfl⟩ := Option.bind_eq_some_iff.mp hp
  exact ⟨p, hp, textFits_iff hp⟩

/-- With an offset of seven bits the text is written past its buffer: the parser and the
configurator accept the rule, and the configurator hands the PSID on. -/
theorem sevenBits_overrun :
    ∃ p p' cfg, (maptParseOpt95Response oneAddress zeroShifts "2001:db8:4000::/40".toList
        (payloadText (sharedPayload 7))).value = some (some p) ∧
      (verifyMAPTConfiguration oneAddress zeroShifts (some "192.168.0.1/24") p).value =
        some (some (p', cfg)) ∧
      p'.ratio ≠ 1 ∧ cfg.psidLen = p.psidLen ∧ cfg.psidValue = p.psid ∧
      ¬ TextFits zeroShifts p.psidOffset p.psidLen p.psid := by
  have hrun : ((maptParseOpt95Response oneAddress zeroShifts "2001:db8:4000::/40".toList
      (payloadText (sharedPayload 7))).value.bind id).bind (fun p =>
        ((verifyMAPTConfiguration oneAddress zeroShifts (some "192.168.0.1/24") p).value.bind id).map
          fun r => (p.psidOffset, p.psidLen, p.psid, r.1.ratio, r.2.psidLen, r.2.psidValue)) =
      some (7, 4, 5, 16, 4, 5) := by
    decide +kernel
  obtain ⟨p, hp, hrun⟩ := Option.bind_eq_some_iff.mp hrun
  obtain ⟨_, hp, rfl⟩ := Option.bind_eq_some_iff.mp hp
  obtain ⟨⟨p', cfg⟩, hr, hrun⟩ := Option.map_eq_some_iff.mp hrun
  obtain ⟨_, hr, rfl⟩ := Option.bind_eq_some_iff.mp hr
  simp only [Prod.mk.injEq] at hrun
  obtain ⟨hoffset, hlen, hpsid, hratio, hlen', hpsid'⟩ := hrun
  refine ⟨p, p', cfg, hp, hr, by omega, by omega, by omega, ?_⟩
  have h7 : portOffset (7 : Nat) = (7 : Nat) := rfl
  rw [hoffset, hlen, hpsid, textFits_portOffset h7 (by decide)]
  decide

end Mapt

end WanManager
