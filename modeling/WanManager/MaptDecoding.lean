import WanManager.MaptOption

/-! # Decoding a container

Containers of one rule and one default mapping rule among other options, as they are encoded,
and what the parser of option 95 makes of them. -/

namespace WanManager
open Wire Text

namespace Mapt

/-! ## Containers -/

/-- A prefix of `len` bits in as few bytes as hold it, with the bits behind it cleared. -/
structure Prefix6 where
  len : Nat
  bytes : List UInt8
  len_le : len ≤ 128
  length_bytes : bytes.length = prefixBytes len
  padded : ∀ b ∈ bytes[len / 8]?, b.toNat % 2 ^ (8 - len % 8) = 0

/-- The option with the port parameters: the PSID stands on the left of its 16 bits. -/
structure PortParams where
  offset : UInt8
  psidLen : Nat
  psid : Nat
  psidLen_le : psidLen ≤ 16
  psid_lt : psid < 2 ^ psidLen

structure Rule where
  isFMR : Bool
  eaLen : UInt8
  prefix4Len : UInt8
  prefix4 : List UInt8
  prefix6 : Prefix6
  portParams : Option PortParams
  length_prefix4 : prefix4.length = 4

/-- The prefix of a default mapping rule ends with a byte. -/
structure Dmr where
  prefix6 : Prefix6
  aligned : prefix6.len % 8 = 0

theorem prefixBytes_le {len : Nat} (h : len ≤ 128) : prefixBytes len ≤ 16 := by
  unfold prefixBytes
  split <;> omega

def PortParams.bytes (p : PortParams) : List UInt8 :=
  [0, 93, 0, 4, p.offset, .ofNat p.psidLen] ++ htons (p.psid * 2 ^ (16 - p.psidLen))

def Rule.subOptions (r : Rule) : List UInt8 := (r.portParams.map PortParams.bytes).getD []

def Rule.bytes (r : Rule) : List UInt8 :=
  [if r.isFMR then 1 else 0, r.eaLen, r.prefix4Len] ++ r.prefix4 ++
    .ofNat r.prefix6.len :: (r.prefix6.bytes ++ r.subOptions)

def Dmr.bytes (d : Dmr) : List UInt8 := .ofNat d.prefix6.len :: d.prefix6.bytes

theorem Rule.length_subOptions (r : Rule) :
    r.subOptions.length = if r.portParams.isSome then 8 else 0 := by
  unfold subOptions
  cases r.portParams <;> simp [PortParams.bytes, htons]

theorem Rule.length_bytes (r : Rule) :
    r.bytes.length = 8 + prefixBytes r.prefix6.len + r.subOptions.length := by
  simp [bytes, r.length_prefix4, r.prefix6.length_bytes]
  omega

theorem Rule.length_bytes_le (r : Rule) : r.bytes.length ≤ 32 := by
  have h6 := prefixBytes_le r.prefix6.len_le
  have hsub := r.length_subOptions
  rw [r.length_bytes]
  split at hsub <;> omega

theorem Dmr.length_bytes_le (d : Dmr) : d.bytes.length ≤ 17 := by
  have h6 := prefixBytes_le d.prefix6.len_le
  have hlen := d.prefix6.length_bytes
  simp only [bytes, List.length_cons]
  omega

/-- What a container holds, in any order. -/
inductive Item where
  | rule | dmr
  | other (o : Opt) (h : o.type ≠ optionRule ∧ o.type ≠ optionDmr)

/-- A container with its rule and its default mapping rule. -/
structure Container where
  rule : Rule
  dmr : Dmr
  items : List Item
  rule_mem : .rule ∈ items
  dmr_mem : .dmr ∈ items

def Container.opt (c : Container) : Item → Opt
  | .rule => ⟨optionRule, c.rule.bytes, by decide, by have := c.rule.length_bytes_le; omega⟩
  | .dmr => ⟨optionDmr, c.dmr.bytes, by decide, by have := c.dmr.length_bytes_le; omega⟩
  | .other o _ => o

/-- The payload of option 95. -/
def Container.encode (c : Container) : List UInt8 := encodeAll (c.items.map c.opt)

/-! ## Prefixes -/

theorem and_mask {b k : Nat} (hb : b < 256) (hk : k < 8) (h : b % 2 ^ (8 - k) = 0) :
    b &&& (255 * 2 ^ (8 - k) % 256) = b := by
  have hall : ∀ k : Fin 8, ∀ b : Fin 256, b.val % 2 ^ (8 - k.val) = 0 →
      b.val &&& (255 * 2 ^ (8 - k.val) % 256) = b.val := by decide +kernel
  exact hall ⟨k, hk⟩ ⟨b, hb⟩ h

theorem Prefix6.masked_bytes (p : Prefix6) : masked p.len p.bytes = p.bytes := by
  unfold masked
  split
  · apply List.ext_getElem?
    intro n
    rw [List.getElem?_modify]
    by_cases hn : p.len / 8 = n
    · subst hn
      cases hb : p.bytes[p.len / 8]? with
      | none => rfl
      | some b =>
        have hmask := and_mask b.toNat_lt (Nat.mod_lt p.len (by decide)) (p.padded b hb)
        have heq : b &&& .ofNat (0xFF * 2 ^ (8 - p.len % 8)) = b := by
          rw [← UInt8.toNat_inj, UInt8.toNat_and, UInt8.toNat_ofNat']
          exact hmask
        simp only [if_true, Option.map_eq_map, Option.map_some, heq]
    · simp [hn]
  · rfl

/-! ## One option -/

theorem getD_append (a b : List UInt8) (i : Nat) : (a ++ b).getD (a.length + i) 0 = b.getD i 0 := by
  simp [List.getD, List.getElem?_append_right]

/-- The length of a prefix fits a byte. -/
theorem Prefix6.toNat_ofNat_len (p : Prefix6) : (UInt8.ofNat p.len).toNat = p.len := by
  have hle := p.len_le
  rw [UInt8.toNat_ofNat']
  omega

theorem Rule.ruleAt_bytes (r : Rule) (tail : List UInt8) :
    ruleAt (r.bytes ++ tail) =
      { flags := if r.isFMR then 1 else 0, eaLen := r.eaLen, prefix4Len := r.prefix4Len
        prefix4 := r.prefix4, prefix6Len := .ofNat r.prefix6.len, prefix6 := r.prefix6.bytes } := by
  obtain ⟨a, b, c, d, h4⟩ : ∃ a b c d, r.prefix4 = [a, b, c, d] := by
    match h : r.prefix4, r.length_prefix4 with
    | [a, b, c, d], _ => exact ⟨a, b, c, d, rfl⟩
  have hlen := r.prefix6.toNat_ofNat_len
  have hprefix : (r.prefix6.bytes ++ (r.subOptions ++ tail)).take (prefixBytes r.prefix6.len) =
      r.prefix6.bytes := by
    rw [← r.prefix6.length_bytes, List.take_left]
  simp [ruleAt, Rule.bytes, h4, byteAt, hlen, hprefix, r.prefix6.masked_bytes]

theorem Rule.value_readRule (r : Rule) (t : Target) (tail : List UInt8) (optLen : Nat) :
    (readRule t (r.bytes ++ tail) optLen).value = some (ruleAt (r.bytes ++ tail)) := by
  have h7 : byteAt (r.bytes ++ tail) 7 = r.prefix6.len := by
    have hlen := r.prefix6.len_le
    have h := congrArg (fun f => f.prefix6Len.toNat) (r.ruleAt_bytes tail)
    have h' : byteAt (r.bytes ++ tail) 7 = (UInt8.ofNat r.prefix6.len).toNat := h
    rw [h', UInt8.toNat_ofNat']
    omega
  have h6 := prefixBytes_le r.prefix6.len_le
  have hlen := r.length_bytes
  apply Mapt.value_readRule
  · rw [List.length_append]
    omega
  · rw [h7, List.length_append]
    omega
  · rw [h7]
    omega

/-- What the port parameters leave, for a length of the PSID of at most 16. -/
def PortParams.store (p : PortParams) (ratio : Nat) (d : MaptData) : MaptData :=
  { d with
    psidOffset := if p.offset ≠ 0 then p.offset.toNat else 6
    psidLen := p.psidLen
    ratio
    psid := p.psid }

theorem PortParams.field_lt (p : PortParams) : p.psid * 2 ^ (16 - p.psidLen) < 65536 := by
  have hle := p.psidLen_le
  calc p.psid * 2 ^ (16 - p.psidLen)
      < 2 ^ p.psidLen * 2 ^ (16 - p.psidLen) :=
        Nat.mul_lt_mul_of_pos_right p.psid_lt (Nat.two_pow_pos _)
    _ = 65536 := by rw [← Nat.pow_add, Nat.add_sub_cancel' hle]

/-- Port parameters behind `front` are read as they were encoded. -/
theorem PortParams.value_parse (p : PortParams) (t : Target) (front tail : List UInt8)
    (optLen : Nat) (d : MaptData) :
    ∃ ratio, (parsePortParams t (front ++ (p.bytes ++ tail)) front.length optLen d).value =
      some (p.store ratio d) := by
  have hle := p.psidLen_le
  have hpsid := p.psid_lt
  have hlen : (UInt8.ofNat p.psidLen).toNat = p.psidLen := by
    rw [UInt8.toNat_ofNat']
    omega
  have hroom (i n : Nat) (h : i + n ≤ 8) :
      front.length + i + n ≤ (front ++ (p.bytes ++ tail)).length := by
    simp [PortParams.bytes, htons]
    omega
  have hdrop (i : Nat) : (front ++ (p.bytes ++ tail)).drop (front.length + i) =
      (p.bytes ++ tail).drop i := List.drop_length_add_append ..
  have hget (i : Nat) (h : i < 8) : (front ++ (p.bytes ++ tail))[front.length + i]? =
      some ((p.bytes ++ tail).getD i 0) := by
    rw [getElem?_eq_getD (by have := hroom i 1 (by omega); omega), getD_append]
  obtain ⟨r, hr⟩ : ∃ r, (psidRatio t p.psidLen d).value = some r := by
    unfold psidRatio
    split <;> exact ⟨_, rfl⟩
  have hshift : (16 : Int) - p.psidLen = ((16 - p.psidLen : Nat) : Int) := by omega
  have hcount : (0 : Int) ≤ ((16 - p.psidLen : Nat) : Int) ∧
      ((16 - p.psidLen : Nat) : Int) < 32 := by omega
  have hfield : p.psid * 2 ^ (16 - p.psidLen) / 2 ^ (16 - p.psidLen) = p.psid :=
    Nat.mul_div_cancel _ (Nat.two_pow_pos _)
  have hpow : 2 ^ p.psidLen ≤ 2 ^ 16 := Nat.pow_le_pow_right (by decide) hle
  have h4 := hget 4 (by decide)
  have h5 := hget 5 (by decide)
  have hd0 := hdrop 0
  have hd6 := hdrop 6
  have hroom0 := hroom 0 4 (by decide)
  have hroom6 := hroom 6 2 (by decide)
  simp only [Nat.add_zero] at hd0 hroom0
  refine ⟨r, ?_⟩
  unfold parsePortParams
  rw [Logged.value_bind, value_readBytes, if_pos hroom0, hd0, Option.bind_some]
  have hheader : ((p.bytes ++ tail).drop 0).take 4 = [0, 93, 0, 4] := by
    simp [PortParams.bytes]
  rw [hheader, if_pos (by decide)]
  unfold readPortParams
  simp only [Logged.value_bind, value_readByte, value_readBytes, h4, h5, Option.bind_some,
    hroom6, if_true, hd6]
  have hoff : (p.bytes ++ tail).getD 4 0 = p.offset := by simp [PortParams.bytes]
  have hlen5 : (p.bytes ++ tail).getD 5 0 = .ofNat p.psidLen := by simp [PortParams.bytes]
  have hlast : ((p.bytes ++ tail).drop 6).take 2 = htons (p.psid * 2 ^ (16 - p.psidLen)) := by
    simp [PortParams.bytes, htons]
  have hntohs : ntohs ((htons (p.psid * 2 ^ (16 - p.psidLen))).getD 0 0)
      ((htons (p.psid * 2 ^ (16 - p.psidLen))).getD 1 0) = p.psid * 2 ^ (16 - p.psidLen) :=
    ntohs_htons p.field_lt
  rw [hoff, hlen5, hlast, hntohs, hlen, hr]
  simp only [Option.bind_some, hshift, shiftRight, Logged.value_access, hcount, and_self, if_true,
    Int.toNat_natCast, hfield, Logged.value_pure]
  have hmod : p.psid % 65536 = p.psid := Nat.mod_eq_of_lt (by omega)
  simp only [storePortParams, PortParams.store, hlen, hmod]

/-- The members that a rule sets, less the ratio. -/
structure Rule.Stored (inetNtop : List UInt8 → String) (r : Rule) (d : MaptData) : Prop where
  isFMR : d.bFMR = r.isFMR
  eaLen : d.eaLen = r.eaLen.toNat
  prefix4Len : d.ruleIPv4PrefixLen = r.prefix4Len.toNat
  prefix4 : d.ruleIPv4Prefix = dotted (r.prefix4.map (·.toNat.repr))
  prefix6Len : d.ruleIPv6PrefixLen = r.prefix6.len
  prefix6H : d.ruleIPv6PrefixH =
    r.prefix6.bytes ++ .replicate (24 - r.prefix6.bytes.length) 0
  prefix6 : d.ruleIPv6Prefix =
    inetNtop (r.prefix6.bytes ++ .replicate (16 - r.prefix6.bytes.length) 0)
  psidOffset : d.psidOffset = (r.portParams.map fun p =>
    if p.offset ≠ 0 then p.offset.toNat else 6).getD 6
  psidLen : d.psidLen = (r.portParams.map PortParams.psidLen).getD 0
  psid : d.psid = (r.portParams.map PortParams.psid).getD 0

/-- The members that a default mapping rule sets. -/
structure Dmr.Stored (inetNtop : List UInt8 → String) (m : Dmr) (d : MaptData) : Prop where
  len : d.brIPv6PrefixLen = m.prefix6.len
  prefix6 : d.brIPv6Prefix =
    inetNtop (m.prefix6.bytes ++ .replicate (16 - m.prefix6.bytes.length) 0)

/-- Nothing but what a rule leaves is where the rule leaves its own. -/
structure Rule.Clear (r : Rule) (d : MaptData) : Prop where
  behind : d.ruleIPv6PrefixH.drop r.prefix6.bytes.length =
    .replicate (24 - r.prefix6.bytes.length) 0
  params : r.portParams = none → d.psidLen = 0 ∧ d.psid = 0

/-- The rule up to its prefix. -/
def Rule.front (r : Rule) : List UInt8 :=
  [if r.isFMR then 1 else 0, r.eaLen, r.prefix4Len] ++ r.prefix4 ++
    .ofNat r.prefix6.len :: r.prefix6.bytes

theorem Rule.bytes_eq (r : Rule) : r.bytes = r.front ++ r.subOptions := by
  simp [bytes, front]

theorem Rule.length_front (r : Rule) : r.front.length = 8 + prefixBytes r.prefix6.len := by
  simp [front, r.length_prefix4, r.prefix6.length_bytes]
  omega

theorem Rule.bytesLeftOut_eq (r : Rule) :
    bytesLeftOut r.bytes.length r.prefix6.len = if r.portParams.isSome then 8 else 0 := by
  rw [bytesLeftOut, r.length_bytes, r.length_subOptions]
  cases r.portParams
  · simp only [Option.isSome_none, Bool.false_eq_true, if_false]
    omega
  · simp only [Option.isSome_some, if_true]
    omega

/-- Storing a rule where nothing else was left sets all of its members but the port parameters. -/
theorem Rule.stored_fields {r : Rule} {d : MaptData} (inetNtop : List UInt8 → String)
    (tail : List UInt8) (h : r.Clear d) :
    storeRule inetNtop (ruleAt (r.bytes ++ tail)) d =
      { d with
        bFMR := r.isFMR
        eaLen := r.eaLen.toNat
        ruleIPv4PrefixLen := r.prefix4Len.toNat
        ruleIPv4Prefix := dotted (r.prefix4.map (·.toNat.repr))
        ruleIPv6PrefixLen := r.prefix6.len
        ruleIPv6PrefixH := r.prefix6.bytes ++ .replicate (24 - r.prefix6.bytes.length) 0
        ruleIPv6Prefix :=
          inetNtop (r.prefix6.bytes ++ .replicate (16 - r.prefix6.bytes.length) 0) } := by
  have hlen := r.prefix6.toNat_ofNat_len
  have h16 : r.prefix6.bytes.length ≤ 16 := by
    rw [r.prefix6.length_bytes]
    exact prefixBytes_le r.prefix6.len_le
  have htake : (r.prefix6.bytes ++ List.replicate (24 - r.prefix6.bytes.length) (0 : UInt8)).take 16 =
      r.prefix6.bytes ++ .replicate (16 - r.prefix6.bytes.length) 0 := by
    rw [List.take_append, List.take_of_length_le h16, List.take_replicate]
    congr 2
    omega
  have hflags : decide ((if r.isFMR then (1 : UInt8) else 0) &&& 0x01 ≠ 0) = r.isFMR := by
    cases r.isFMR <;> decide
  rw [storeRule, r.ruleAt_bytes]
  simp only [h.behind, htake, hlen, hflags]

/-- A rule is stored, and the default mapping rule stays. -/
theorem Rule.parse {r : Rule} {d : MaptData} (inetNtop : List UInt8 → String) (t : Target)
    (tail : List UInt8) (h : r.Clear d) :
    ∃ d', (parseRule inetNtop t (r.bytes ++ tail) r.bytes.length d).value = some d' ∧
      r.Stored inetNtop d' ∧ r.Clear d' ∧ d'.brIPv6PrefixLen = d.brIPv6PrefixLen ∧
        d'.brIPv6Prefix = d.brIPv6Prefix := by
  have h6 : (ruleAt (r.bytes ++ tail)).prefix6Len.toNat = r.prefix6.len := by
    have := r.prefix6.len_le
    rw [r.ruleAt_bytes]
    show (UInt8.ofNat r.prefix6.len).toNat = _
    rw [UInt8.toNat_ofNat']
    omega
  unfold parseRule
  simp only [Logged.value_bind, r.value_readRule, Option.bind_some, r.stored_fields inetNtop tail h,
    h6, r.bytesLeftOut_eq, shiftLeft, Logged.value_access]
  have hbehind : (r.prefix6.bytes ++
      List.replicate (24 - r.prefix6.bytes.length) (0 : UInt8)).drop r.prefix6.bytes.length =
        .replicate (24 - r.prefix6.bytes.length) 0 := List.drop_left
  cases hp : r.portParams with
  | none =>
    obtain ⟨hlen, hpsid⟩ := h.params hp
    simp only [Option.isSome_none, Bool.false_eq_true, if_false]
    rw [if_neg (by decide)]
    refine ⟨_, rfl, ⟨rfl, rfl, rfl, rfl, rfl, rfl, rfl, ?_, ?_, ?_⟩, ⟨hbehind, fun _ => ?_⟩, rfl, rfl⟩
    · simp [storeRatio, hp]
    · simpa [storeRatio, hp] using hlen
    · simpa [storeRatio, hp] using hpsid
    · exact ⟨hlen, hpsid⟩
  | some p =>
    have hsub : r.bytes ++ tail = r.front ++ (p.bytes ++ tail) := by
      rw [r.bytes_eq]
      simp [subOptions, hp]
    simp only [Option.isSome_some, if_true]
    rw [hsub, ← r.length_front]
    generalize hd₁ : storeRatio _ _ = d₁
    obtain ⟨ratio, hparse⟩ := p.value_parse t r.front tail r.bytes.length d₁
    rw [hparse]
    subst hd₁
    refine ⟨_, rfl, ⟨rfl, rfl, rfl, rfl, rfl, rfl, rfl, ?_, ?_, ?_⟩, ⟨hbehind, ?_⟩, rfl, rfl⟩
    · simp [PortParams.store, hp]
    · simp [PortParams.store, hp]
    · simp [PortParams.store, hp]
    · simp [hp]

/-- A default mapping rule is stored, and the rest stays. -/
theorem Dmr.parse (inetNtop : List UInt8 → String) (m : Dmr) (tail : List UInt8) (d : MaptData) :
    ∃ d', (parseDmr inetNtop (m.bytes ++ tail) m.bytes.length d).value = some d' ∧
      m.Stored inetNtop d' ∧ (∀ r : Rule, (r.Clear d → r.Clear d') ∧
        (r.Stored inetNtop d → r.Stored inetNtop d')) := by
  have hle := m.prefix6.len_le
  have hlen : (UInt8.ofNat m.prefix6.len).toNat = m.prefix6.len := by
    rw [UInt8.toNat_ofNat']
    omega
  have hbytes : m.prefix6.len / 8 = m.prefix6.bytes.length := by
    rw [m.prefix6.length_bytes, prefixBytes, if_neg (by simp [m.aligned])]
    rfl
  have h16 : m.prefix6.bytes.length ≤ 16 := by omega
  have htake : (m.prefix6.bytes ++ List.replicate 24 (0 : UInt8)).take 16 =
      m.prefix6.bytes ++ .replicate (16 - m.prefix6.bytes.length) 0 := by
    rw [List.take_append, List.take_of_length_le h16, List.take_replicate]
    congr 2
    omega
  have hroom : 1 + m.prefix6.bytes.length ≤ (m.bytes ++ tail).length := by
    simp [Dmr.bytes]
    omega
  have hread : ((m.bytes ++ tail).drop 1).take m.prefix6.bytes.length = m.prefix6.bytes := by
    simp [Dmr.bytes]
  have h0 : (m.bytes ++ tail)[0]? = some (.ofNat m.prefix6.len) := rfl
  unfold parseDmr
  simp only [Logged.value_bind, value_readByte, h0, Option.bind_some, hlen, hbytes,
    value_readBytes, hroom, if_true, hread, value_copyInto, show m.prefix6.bytes.length ≤ 24 by omega,
    Logged.value_pure, htake]
  refine ⟨_, rfl, ⟨rfl, rfl⟩, fun r => ⟨fun hc => ⟨hc.behind, hc.params⟩, fun hs => ?_⟩⟩
  exact ⟨hs.isFMR, hs.eaLen, hs.prefix4Len, hs.prefix4, hs.prefix6Len, hs.prefix6H, hs.prefix6,
    hs.psidOffset, hs.psidLen, hs.psid⟩

/-! ## The container -/

/-- The options of a container are parsed one after another: what is stored of its two rules
stays, and is there once they have come. -/
theorem Container.parse (c : Container) (inetNtop : List UInt8 → String) (t : Target)
    (slack : List UInt8) (items : List Item) (d : MaptData) (h : c.rule.Clear d) :
    ∃ d', (parseOptions inetNtop t (foundIn slack (items.map c.opt)) d).value = some d' ∧
      (.rule ∈ items ∨ c.rule.Stored inetNtop d → c.rule.Stored inetNtop d') ∧
      (.dmr ∈ items ∨ c.dmr.Stored inetNtop d → c.dmr.Stored inetNtop d') := by
  induction items generalizing d with
  | nil => exact ⟨d, rfl, by simp, by simp⟩
  | cons item items ih =>
    simp only [List.map_cons, foundIn, parseOptions_cons, Logged.value_bind]
    cases item with
    | rule =>
      obtain ⟨d₁, hd₁, hstored, hclear, hlen, hbr⟩ := Rule.parse inetNtop t
        (encodeAll (items.map c.opt) ++ slack) h
      obtain ⟨d', hd', hrule, hdmr⟩ := ih d₁ hclear
      refine ⟨d', ?_, fun _ => hrule (.inr hstored), fun hm => hdmr ?_⟩
      · simp only [Container.opt, parseOption, if_true]
        rw [hd₁]
        exact hd'
      · obtain hm | hm := hm
        · exact .inl (by simpa using hm)
        · exact .inr ⟨hlen.trans hm.len, hbr.trans hm.prefix6⟩
    | dmr =>
      obtain ⟨d₁, hd₁, hstored, hrest⟩ := c.dmr.parse inetNtop
        (encodeAll (items.map c.opt) ++ slack) d
      obtain ⟨hclear, hkeep⟩ := hrest c.rule
      obtain ⟨d', hd', hrule, hdmr⟩ := ih d₁ (hclear h)
      refine ⟨d', ?_, fun hm => hrule ?_, fun _ => hdmr (.inr hstored)⟩
      · simp only [Container.opt, parseOption, if_true]
        rw [if_neg (by decide), hd₁]
        exact hd'
      · exact hm.imp (by simp) hkeep
    | other o ho =>
      obtain ⟨d', hd', hrule, hdmr⟩ := ih d h
      refine ⟨d', ?_, fun hm => hrule (hm.imp_left (by simp)), fun hm => hdmr (hm.imp_left (by simp))⟩
      have hopt : (parseOption inetNtop t ⟨o.type, o.bytes.length,
          o.bytes ++ (encodeAll (items.map c.opt) ++ slack)⟩ d).value = some d := by
        rw [parseOption, if_neg ho.1, if_neg ho.2]
        rfl
      exact (congrArg (Option.bind · _) hopt).trans hd'

theorem Rule.clear_zeroed (r : Rule) : r.Clear {} :=
  ⟨List.drop_replicate, fun _ => ⟨rfl, rfl⟩⟩

/-- What is encoded is decoded: a container whose first option has a type with a low byte, with
a prefix in its rule and one in its default mapping rule, is accepted with the two rules stored,
whatever lies behind it in memory. -/
theorem Container.decode {c : Container} (inetNtop : List UInt8 → String) (t : Target)
    (slack : List UInt8) (hfirst : byteAt c.encode 1 ≠ 0) (hrule : c.rule.prefix6.len ≠ 0)
    (hdmr : c.dmr.prefix6.len ≠ 0) :
    ∃ d, (parseResponse inetNtop t (c.encode ++ slack) c.encode.length {}).value =
        some (.success, d) ∧
      c.rule.Stored inetNtop d ∧ c.dmr.Stored inetNtop d := by
  obtain ⟨d, hd, hr, hm⟩ := c.parse inetNtop t slack c.items {} c.rule.clear_zeroed
  have hr := hr (.inl c.rule_mem)
  have hm := hm (.inl c.dmr_mem)
  obtain ⟨hvalue, -⟩ := parseLoop_walk inetNtop t c.encode.length (c.encode ++ slack) {} (by simp)
  have hlen : 1 < c.encode.length := by
    by_contra hlt
    exact hfirst (by simp [byteAt, List.getElem?_eq_none (Nat.le_of_not_lt hlt)])
  have hsecond : (c.encode ++ slack)[1]? = some (c.encode.getD 1 0) := by
    rw [List.getElem?_append_left hlen, getElem?_eq_getD hlen]
  have hne : c.encode.getD 1 0 ≠ 0 := by
    intro h0
    exact hfirst (by rw [byteAt, h0]; rfl)
  refine ⟨d, ?_, hr, hm⟩
  have hwalk : walk c.encode.length (c.encode ++ slack) =
      (foundIn slack (c.items.map c.opt), .done) := walk_encodeAll _ _
  rw [hwalk, hd] at hvalue
  unfold parseResponse
  rw [Logged.value_bind, value_readByte, hsecond, Option.bind_some, if_neg hne, Logged.value_bind,
    hvalue]
  have hparts : ¬ (d.ruleIPv6PrefixLen = 0 ∨ d.brIPv6PrefixLen = 0) := by
    rw [hr.prefix6Len, hm.len]
    exact not_or.mpr ⟨hrule, hdmr⟩
  simp only [Option.map_some, Option.bind_some, endingStatus, if_neg hparts, Logged.value_pure]

/-- The prefix `2001:db8::/32`, and no prefix at all. -/
def documentation : Prefix6 :=
  ⟨32, [0x20, 0x01, 0x0d, 0xb8], by decide, by decide, by simp⟩

def noPrefix : Prefix6 := ⟨0, [], by decide, by decide, by simp⟩

/-- A container of a rule for 192.0.2.0/24 with 16 bits and a default mapping rule. -/
def container (p : Prefix6) : Container where
  rule := ⟨true, 16, 24, [192, 0, 2, 0], p, none, rfl⟩
  dmr := ⟨documentation, rfl⟩
  items := [.rule, .dmr]
  rule_mem := by simp
  dmr_mem := by simp

theorem decode_documentation : ∃ d,
    (parseResponse (fun _ => "") ⟨fun _ _ => 0, fun _ _ => 0⟩ ((container documentation).encode ++ [])
        (container documentation).encode.length {}).value = some (.success, d) ∧
      (container documentation).rule.Stored (fun _ => "") d ∧
      (container documentation).dmr.Stored (fun _ => "") d :=
  Container.decode _ _ _ (by decide) (by decide) (by decide)

/-- A rule for every address is taken for a rule that is missing. -/
theorem noPrefix_rejected : byteAt (container noPrefix).encode 1 ≠ 0 ∧ ¬ ∃ d,
    (parseResponse (fun _ => "") ⟨fun _ _ => 0, fun _ _ => 0⟩ ((container noPrefix).encode ++ [])
        (container noPrefix).encode.length {}).value = some (.success, d) ∧
      (container noPrefix).rule.Stored (fun _ => "") d ∧
      (container noPrefix).dmr.Stored (fun _ => "") d := by
  refine ⟨by decide, ?_⟩
  rintro ⟨d, hd, -⟩
  have hfail : ((parseResponse (fun _ => "") ⟨fun _ _ => 0, fun _ _ => 0⟩
      ((container noPrefix).encode ++ []) (container noPrefix).encode.length {}).value.map (·.1)) =
        some .failure := by decide +kernel
  rw [hd] at hfail
  simp at hfail

end Mapt

end WanManager
