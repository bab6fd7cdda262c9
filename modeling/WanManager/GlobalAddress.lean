import WanManager.Text.Inet

/-! # The global IPv6 address of an interface

`dhcpv6_assign_global_ip`, which makes an address of a delegated prefix and of the hardware address of
an interface, in the build without the product switches. Its texts are lists of characters, and `line`
is the line that `ifconfig` and `grep` print. -/

namespace WanManager.GlobalAddress
open Text

/-! ## The routine -/

/-- How it ends. -/
inductive Assigned where
  | address (ipAddr : List Char)
  | error
  /-- It leaves one of its arrays, or copies between strings that overlap. -/
  | undefined
  deriving DecidableEq, Repr

/-- The text before the last slash and the text after it. -/
def cutSlash : List Char → Option (List Char × List Char)
  | [] => none
  | c :: rest =>
    match cutSlash rest with
    | some (before, after) => some (c :: before, after)
    | none => if c = '/' then some ([], rest) else none

/-- What follows the first `HWaddr`. -/
def afterHwaddr : List Char → Option (List Char)
  | [] => none
  | c :: rest =>
    if "HWaddr".toList.isPrefixOf (c :: rest) then some ((c :: rest).drop 6) else afterHwaddr rest

/-- The seventh bit of the address switched, in its second digit. -/
def switchBit (c : Char) : Char :=
  let k := (hexDigit c).getD 0 ^^^ 2
  Char.ofNat (if k < 10 then k + '0'.toNat else k + 'A'.toNat - 10)

/-- The hardware address that starts at `pMac`, with the two bytes in its middle. -/
def interfaceId (pMac : List Char) : List Char :=
  let k := switchBit (pMac.getD 1 (Char.ofNat 0))
  let mac := (if pMac.length = 1 then pMac ++ [k] else pMac.set 1 k).take 17
  mac.take 9 ++ "FF:FE:".toList ++ mac.drop 9

/-- The digits of `out` in groups of four, each with a colon after it; `k` of the next one are there. -/
def regroup : Nat → List Char → List Char
  | _, [] => []
  | k, c :: out =>
    if c = ':' then regroup k out
    else if k = 3 then c :: ':' :: regroup 0 out
    else c :: regroup (k + 1) out

/-- The second part, behind the first one in `globalIP`. -/
def appendInterfaceId (line globalIP : List Char) : Assigned :=
  let out := line.take 255
  match afterHwaddr out with
  | none => .error
  | some rest =>
    let pMac := rest.dropWhile (· = ' ')
    let start := out.length - pMac.length
    let full := globalIP ++ regroup 0 (interfaceId pMac)
    if start < 15 ∨ 256 ≤ start + 17 ∨ 64 < full.length then .undefined else .address full.dropLast

/-- `dhcpv6_assign_global_ip` -/
def dhcpv6AssignGlobalIp (line sitePrefix : List Char) : Assigned :=
  if 64 ≤ sitePrefix.length then .undefined
  else
    match cutSlash sitePrefix with
    | none => .undefined
    | some (globalIP, length) =>
      let i := globalIP.length
      if 64 < (atoi length).toNat then .error
      else if i < 2 then .undefined
      else if globalIP[i - 1]? ≠ some ':' ∧ globalIP[i - 2]? ≠ some ':' then .error
      else
        let k := (globalIP.take (i - 2)).count ':'
        appendInterfaceId line (if k = 3 then globalIP.take (i - 1) else globalIP)

/-! ## Hardware addresses -/

/-- Six bytes. -/
structure Mac where
  a : UInt8
  b : UInt8
  c : UInt8
  d : UInt8
  e : UInt8
  f : UInt8
  deriving DecidableEq, Repr

def hexByte (high low : Char) : Option UInt8 :=
  match hexDigit high, hexDigit low with
  | some h, some l => some (UInt8.ofNat (16 * h + l))
  | _, _ => none

/-- Two digits for each byte, with colons between. -/
def readMac : List Char → Option Mac
  | [a₁, a₂, ':', b₁, b₂, ':', c₁, c₂, ':', d₁, d₂, ':', e₁, e₂, ':', f₁, f₂] =>
    match hexByte a₁ a₂, hexByte b₁ b₂, hexByte c₁ c₂, hexByte d₁ d₂, hexByte e₁ e₂, hexByte f₁ f₂ with
    | some a, some b, some c, some d, some e, some f => some ⟨a, b, c, d, e, f⟩
    | _, _, _, _, _, _ => none
  | _ => none

/-- The modified EUI-64 of a hardware address: its universal bit switched and `ff:fe` in the middle. -/
def Mac.eui64 (mac : Mac) : List UInt16 :=
  [(mac.a ^^^ 2).toUInt16 * 256 + mac.b.toUInt16, mac.c.toUInt16 * 256 + 0xff,
    0xfe * 256 + mac.d.toUInt16, mac.e.toUInt16 * 256 + mac.f.toUInt16]

/-- What `ifconfig` prints of an Ethernet interface: its name and the encapsulation, and then the
address. -/
structure HardwareLine (mac : Mac) (line : List Char) : Prop where
  shown : ∃ front address back, line = front ++ "HWaddr ".toList ++ address ++ back ∧
    readMac address = some mac ∧ ¬ "HWaddr".toList <:+: front ∧ 8 ≤ front.length ∧ front.length ≤ 200

example : dhcpv6AssignGlobalIp
    "brlan0    Link encap:Ethernet  HWaddr 00:50:56:92:00:22  ".toList "2001:db8:1::/64".toList =
      .address "2001:db8:1::0250:56FF:FE92:0022".toList := by decide +kernel

theorem hexByte_eq_some {high low : Char} {b : UInt8} (h : hexByte high low = some b) :
    ∃ x y, hexDigit high = some x ∧ hexDigit low = some y ∧ b.toNat = 16 * x + y := by
  unfold hexByte at h
  split at h
  · next x y hx hy =>
    obtain rfl := Option.some.inj h
    have hx' := hexDigit_lt hx
    have hy' := hexDigit_lt hy
    exact ⟨x, y, hx, hy, UInt8.toNat_ofNat_of_lt' (by simp only [UInt8.size]; omega)⟩
  · cases h

/-- Two bytes make a group. -/
theorem hexGroup_bytes {a₁ a₂ b₁ b₂ : Char} {a b : UInt8} (ha : hexByte a₁ a₂ = some a)
    (hb : hexByte b₁ b₂ = some b) :
    hexGroup [a₁, a₂, b₁, b₂] = some (a.toUInt16 * 256 + b.toUInt16) := by
  obtain ⟨x, y, hx, hy, ha⟩ := hexByte_eq_some ha
  obtain ⟨z, w, hz, hw, hb⟩ := hexByte_eq_some hb
  have halt := a.toNat_lt
  have hblt := b.toNat_lt
  have hscale : (256 : UInt16).toNat = 256 := rfl
  simp only [hexGroup, hexNumber, hx, hy, hz, hw, Option.bind_some]
  rw [if_pos (by simp), Option.map_some, Option.some.injEq, ← UInt16.toNat_inj, UInt16.toNat_add,
    UInt16.toNat_mul, UInt8.toNat_toUInt16, UInt8.toNat_toUInt16, UInt16.toNat_ofNat', hscale]
  omega

/-- The digit that is printed for the switched one. -/
theorem hexByte_switchBit {high low : Char} {b : UInt8} (h : hexByte high low = some b) :
    hexByte high (switchBit low) = some (b ^^^ 2) := by
  have hdigit : ∀ y < 16, hexDigit (Char.ofNat (if y ^^^ 2 < 10 then (y ^^^ 2) + '0'.toNat
      else (y ^^^ 2) + 'A'.toNat - 10)) = some (y ^^^ 2) := by decide
  have hbyte : ∀ x < 16, ∀ y < 16, UInt8.ofNat (16 * x + (y ^^^ 2)) = UInt8.ofNat (16 * x + y) ^^^ 2 := by
    decide +kernel
  obtain ⟨x, y, hx, hy, hb⟩ := hexByte_eq_some h
  have hb' : b = UInt8.ofNat (16 * x + y) := by rw [← hb, UInt8.ofNat_toNat]
  have hswitched : hexDigit (switchBit low) = some (y ^^^ 2) := by
    rw [switchBit, hy]
    exact hdigit y (hexDigit_lt hy)
  simp only [hexByte, hx, hswitched]
  rw [hbyte x (hexDigit_lt hx) y (hexDigit_lt hy), hb']

theorem hexByte_ne_colon {high low : Char} {b : UInt8} (h : hexByte high low = some b) :
    high ≠ ':' ∧ low ≠ ':' := by
  obtain ⟨x, y, hx, hy, -⟩ := hexByte_eq_some h
  constructor
  · rintro rfl
    cases hx
  · rintro rfl
    cases hy

/-- The interface identifier comes out in the four groups of the modified EUI-64. -/
theorem regroup_interfaceId {address : List Char} {mac : Mac} (back : List Char)
    (h : readMac address = some mac) :
    ∃ qs, hexGroups qs = some mac.eui64 ∧
      regroup 0 (interfaceId (address ++ back)) = [':'].intercalate qs ++ [':'] ∧
      ([':'].intercalate qs).length = 19 := by
  unfold readMac at h
  split at h
  · next a₁ a₂ b₁ b₂ c₁ c₂ d₁ d₂ e₁ e₂ f₁ f₂ =>
    split at h
    · next a b c d e f ha hb hc hd he hf =>
      obtain rfl := Option.some.inj h
      have ha' := hexByte_switchBit ha
      obtain ⟨ha₁, -⟩ := hexByte_ne_colon ha
      obtain ⟨-, hk⟩ := hexByte_ne_colon ha'
      obtain ⟨hb₁, hb₂⟩ := hexByte_ne_colon hb
      obtain ⟨hc₁, hc₂⟩ := hexByte_ne_colon hc
      obtain ⟨hd₁, hd₂⟩ := hexByte_ne_colon hd
      obtain ⟨he₁, he₂⟩ := hexByte_ne_colon he
      obtain ⟨hf₁, hf₂⟩ := hexByte_ne_colon hf
      refine ⟨[[a₁, switchBit a₂, b₁, b₂], [c₁, c₂, 'F', 'F'], ['F', 'E', d₁, d₂], [e₁, e₂, f₁, f₂]],
        ?_, ?_, rfl⟩
      · have hff : hexByte 'F' 'F' = some 0xff := by decide
        have hfe : hexByte 'F' 'E' = some 0xfe := by decide
        simp only [hexGroups, hexGroup_bytes ha' hb, hexGroup_bytes hc hff, hexGroup_bytes hfe hd,
          hexGroup_bytes he hf, Option.bind_some, Option.map_some]
        rfl
      · have hid : interfaceId ([a₁, a₂, ':', b₁, b₂, ':', c₁, c₂, ':', d₁, d₂, ':', e₁, e₂, ':', f₁, f₂] ++
            back) = [a₁, switchBit a₂, ':', b₁, b₂, ':', c₁, c₂, ':', 'F', 'F', ':', 'F', 'E', ':',
              d₁, d₂, ':', e₁, e₂, ':', f₁, f₂] := rfl
        rw [hid]
        simp [regroup, ha₁, hk, hb₁, hb₂, hc₁, hc₂, hd₁, hd₂, he₁, he₂, hf₁, hf₂, List.intercalate]
    · cases h
  · cases h

/-- The word cannot start in front of its first occurrence and end behind it. -/
theorem isPrefixOf_front {w front rest : List Char} {c : Char} (hc : c ∉ w)
    (h : w <+: front ++ c :: rest) : w <+: front := by
  obtain hfront | ⟨t, rfl⟩ := List.prefix_or_prefix_of_prefix h (List.prefix_append front (c :: rest))
  · exact hfront
  · cases t with
    | nil => simp
    | cons d t =>
      obtain ⟨u, hu⟩ := (List.prefix_append_right_inj _).mp h
      have hd : d = c := (List.cons.inj hu).1
      exact absurd (by simp [hd]) hc

theorem afterHwaddr_append {front rest : List Char} (h : ¬ "HWaddr".toList <:+: front) :
    afterHwaddr (front ++ "HWaddr".toList ++ rest) = some rest := by
  have hword : "HWaddr".toList = 'H' :: "Waddr".toList := by decide
  induction front with
  | nil =>
    have hhere : "HWaddr".toList <+: 'H' :: ("Waddr".toList ++ rest) := ⟨rest, by rw [hword]; rfl⟩
    rw [List.nil_append, hword, List.cons_append, afterHwaddr, if_pos (List.isPrefixOf_iff_prefix.mpr hhere)]
    rfl
  | cons c front ih =>
    have hnot : ¬ "HWaddr".toList <+: c :: (front ++ "HWaddr".toList ++ rest) := by
      intro hprefix
      rw [hword, List.cons_prefix_cons] at hprefix
      obtain ⟨rfl, hprefix⟩ := hprefix
      rw [List.append_assoc, List.cons_append] at hprefix
      have hfront : "Waddr".toList <+: front := isPrefixOf_front (by decide) hprefix
      have hwhole : "HWaddr".toList <+: 'H' :: front := by
        rw [hword, List.cons_prefix_cons]
        exact ⟨rfl, hfront⟩
      exact h hwhole.isInfix
    have htail : ¬ "HWaddr".toList <:+: front := fun hin => h (hin.trans (List.suffix_cons c front).isInfix)
    rw [List.cons_append, List.cons_append, afterHwaddr, if_neg (mt List.isPrefixOf_iff_prefix.mp hnot)]
    exact ih htail

theorem length_of_readMac {address : List Char} {mac : Mac} (h : readMac address = some mac) :
    address.length = 17 ∧ address.head? ≠ some ' ' := by
  unfold readMac at h
  split at h
  · next a₁ a₂ b₁ b₂ c₁ c₂ d₁ d₂ e₁ e₂ f₁ f₂ =>
    split at h
    · next a b c d e f ha hb hc hd he hf =>
      obtain ⟨x, y, hx, -⟩ := hexByte_eq_some ha
      refine ⟨rfl, ?_⟩
      simp only [List.head?_cons, ne_eq, Option.some.injEq]
      rintro rfl
      cases hx
    · cases h
  · cases h

/-- The second part of the address is the same whatever the first part is, as long as there is room. -/
theorem appendInterfaceId_line {line : List Char} {mac : Mac} (h : HardwareLine mac line) :
    ∃ qs, hexGroups qs = some mac.eui64 ∧ ∀ globalIP : List Char, appendInterfaceId line globalIP =
      if 44 < globalIP.length then .undefined else .address (globalIP ++ [':'].intercalate qs) := by
  obtain ⟨front, address, back, rfl, hmac, hfront, hmin, hmax⟩ := h.shown
  obtain ⟨hlength, hspace⟩ := length_of_readMac hmac
  obtain ⟨qs, hqs, hregroup, hqlength⟩ := regroup_interfaceId (back.take (231 - front.length)) hmac
  refine ⟨qs, hqs, fun globalIP => ?_⟩
  have hline : (front ++ "HWaddr ".toList ++ address ++ back).take 255 =
      front ++ "HWaddr".toList ++ (' ' :: (address ++ back.take (231 - front.length))) := by
    have hword : "HWaddr ".toList = "HWaddr".toList ++ [' '] := by decide
    have hwidth : "HWaddr ".toList.length = 7 := by decide
    have hroom : (front ++ "HWaddr ".toList ++ address).length = front.length + 24 := by
      rw [List.length_append, List.length_append, hwidth, hlength]
    rw [List.take_append, List.take_of_length_le (by omega), hroom, hword,
      show 255 - (front.length + 24) = 231 - front.length by omega]
    simp only [List.append_assoc, List.cons_append, List.nil_append]
  have hmac : (' ' :: (address ++ back.take (231 - front.length))).dropWhile (fun c => decide (c = ' ')) =
      address ++ back.take (231 - front.length) := by
    rw [List.dropWhile_cons_of_pos (by simp)]
    cases address with
    | nil => cases hlength
    | cons c address =>
      have hc : c ≠ ' ' := by simpa using hspace
      rw [List.cons_append, List.dropWhile_cons_of_neg (by simpa using hc)]
  have hstart : (front ++ "HWaddr".toList ++
        (' ' :: (address ++ back.take (231 - front.length)))).length -
      (address ++ back.take (231 - front.length)).length = front.length + 7 := by
    have hwidth : "HWaddr".toList.length = 6 := by decide
    simp only [List.length_append, List.length_cons, hwidth]
    omega
  have hfull : globalIP ++ ([':'].intercalate qs ++ [':']) = (globalIP ++ [':'].intercalate qs) ++ [':'] :=
    (List.append_assoc _ _ _).symm
  simp only [appendInterfaceId, hline, afterHwaddr_append hfront, hmac, hstart, hregroup, hfull,
    List.dropLast_concat]
  rw [List.length_append, List.length_append, hqlength, List.length_singleton]
  split
  · rw [if_pos (by omega)]
  · rw [if_neg (by omega)]

/-! ## Prefixes -/

theorem cutSlash_append {before after : List Char} (h : '/' ∉ after) :
    cutSlash (before ++ '/' :: after) = some (before, after) := by
  have hnone : ∀ {text : List Char}, '/' ∉ text → cutSlash text = none := by
    intro text
    induction text with
    | nil => simp [cutSlash]
    | cons c text ih =>
      intro hnot
      simp only [List.mem_cons, not_or] at hnot
      simp only [cutSlash, ih hnot.2]
      rw [if_neg fun hc => hnot.1 hc.symm]
  induction before with
  | nil => simp [cutSlash, hnone h]
  | cons c before ih => simp [cutSlash, ih]

theorem count_intercalate {ps : List (List Char)} (h : ∀ piece ∈ ps, piece ≠ [] ∧ ':' ∉ piece) :
    ([':'].intercalate ps).count ':' = ps.length - 1 := by
  induction ps with
  | nil => rfl
  | cons piece rest ih =>
    obtain ⟨⟨-, hcolon⟩, hrest⟩ := List.forall_mem_cons.mp h
    have hzero := List.count_eq_zero.mpr hcolon
    cases rest with
    | nil =>
      rw [List.intercalate_singleton, hzero]
      rfl
    | cons next rest =>
      rw [intercalate_cons (List.cons_ne_nil _ _), List.count_append, List.count_cons_self, hzero, ih hrest]
      simp only [List.length_cons]
      omega

theorem length_intercalate_le {ps : List (List Char)} {gs : List UInt16} (h : hexGroups ps = some gs) :
    ([':'].intercalate ps).length ≤ 5 * ps.length := by
  induction ps generalizing gs with
  | nil => simp
  | cons piece rest ih =>
    obtain ⟨g, gs, hg, hgs, rfl⟩ := hexGroups_cons h
    have hpiece := (hexGroup_spec hg).1
    have htail := ih hgs
    cases rest with
    | nil =>
      simp only [List.intercalate_singleton, List.length_cons, List.length_nil]
      omega
    | cons next rest =>
      rw [intercalate_cons (List.cons_ne_nil _ _)]
      simp only [List.length_append, List.length_cons] at htail ⊢
      omega

theorem intercalate_append {ps qs : List (List Char)} (hps : ps ≠ []) (hqs : qs ≠ []) :
    [':'].intercalate (ps ++ qs) = [':'].intercalate ps ++ ':' :: [':'].intercalate qs := by
  induction ps with
  | nil => exact absurd rfl hps
  | cons piece rest ih =>
    cases rest with
    | nil => rw [List.singleton_append, intercalate_cons hqs, List.intercalate_singleton]
    | cons next rest =>
      have hrest : next :: rest ≠ [] := List.cons_ne_nil _ _
      rw [List.cons_append, intercalate_cons (List.append_ne_nil_of_left_ne_nil hrest qs), ih hrest,
        intercalate_cons hrest, List.append_assoc, List.cons_append]

/-- What is appended to, for at most four groups: with four of them one colon is left. -/
theorem address_of_groups {ps qs : List (List Char)} {gs hs : List UInt16} (hps : hexGroups ps = some gs)
    (hqs : hexGroups qs = some hs) (hm : ps.length ≤ 4) (hn : hs.length = 4) :
    ∃ ip, readIpv6 ((if ps.length = 4 then [':'].intercalate ps ++ [':']
        else [':'].intercalate ps ++ "::".toList) ++ [':'].intercalate qs) = some ip ∧
      ip.groups = gs ++ List.replicate (4 - ps.length) 0 ++ hs := by
  have hgs := (spells_hexGroups hps).2
  have hqs' := (spells_hexGroups hqs).2
  by_cases hfour : ps.length = 4
  · have hne : ps ≠ [] := List.ne_nil_of_length_pos (by omega)
    have hne' : qs ≠ [] := List.ne_nil_of_length_pos (by omega)
    have hlength : (gs ++ hs).length = 8 := by rw [List.length_append]; omega
    refine ⟨⟨gs ++ hs, hlength⟩, ?_, ?_⟩
    · rw [if_pos hfour, List.append_assoc, List.singleton_append, ← intercalate_append hne hne',
        readIpv6_full (hexGroups_append hps hqs), ofGroups_eq_some]
    · rw [hfour, Nat.sub_self, List.replicate_zero, List.append_nil]
  · have hlength : (gs ++ List.replicate (4 - ps.length) 0 ++ hs).length = 8 := by
      simp only [List.length_append, List.length_replicate]
      omega
    refine ⟨⟨_, hlength⟩, ?_, rfl⟩
    have hdouble : "::".toList = [':', ':'] := by decide
    rw [if_neg hfour, hdouble, List.append_assoc]
    refine (readIpv6_double hps hqs).trans (padGroups_eq_some.mpr ⟨by omega, ?_⟩)
    rw [hn, hgs, show 8 - (ps.length + 4) = 4 - ps.length by omega]

/-- The tests and the first part, for groups that a double colon follows. -/
theorem dhcpv6AssignGlobalIp_groups {ps : List (List Char)} {gs : List UInt16} {digits line : List Char}
    (hps : hexGroups ps = some gs) (hne : digits ≠ [])
    (hdigits : ∀ c ∈ digits, c.isDigit) (hlen : Nat.ofDigitChars 10 digits 0 ≤ 64)
    (hroom : ([':'].intercalate ps ++ "::/".toList ++ digits).length < 64) :
    dhcpv6AssignGlobalIp line ([':'].intercalate ps ++ "::/".toList ++ digits) =
      appendInterfaceId line (if ps.length = 4 then [':'].intercalate ps ++ [':']
        else [':'].intercalate ps ++ "::".toList) := by
  have hpieces := hexGroups_digits hps
  have hslash : '/' ∉ digits := fun hin => absurd (hdigits _ hin) (by decide)
  have htext : [':'].intercalate ps ++ "::/".toList ++ digits =
      ([':'].intercalate ps ++ "::".toList) ++ '/' :: digits := by
    have hword : "::/".toList = "::".toList ++ ['/'] := by decide
    rw [hword]
    simp only [List.append_assoc, List.singleton_append]
  have hvalue : ¬ 64 < (atoi digits).toNat := by
    rw [atoi_digits hne hdigits, toNat_ofDigits (by omega)]
    omega
  have htwo : "::".toList = [':', ':'] := by decide
  have hwidth : ([':'].intercalate ps ++ "::".toList).length = ([':'].intercalate ps).length + 2 := by
    rw [List.length_append, htwo]
    rfl
  have hlast : ([':'].intercalate ps ++ "::".toList)[([':'].intercalate ps).length + 2 - 1]? = some ':' := by
    rw [htwo, List.getElem?_append_right (by omega)]
    simp
  have hfront : ([':'].intercalate ps ++ "::".toList).take (([':'].intercalate ps).length + 2 - 2) =
      [':'].intercalate ps := by
    rw [Nat.add_sub_cancel, List.take_left]
  have hcut : ([':'].intercalate ps ++ "::".toList).take (([':'].intercalate ps).length + 2 - 1) =
      [':'].intercalate ps ++ [':'] := by
    rw [htwo, List.take_append, List.take_of_length_le (by omega)]
    congr 1
    rw [show ([':'].intercalate ps).length + 2 - 1 - ([':'].intercalate ps).length = 1 by omega]
    rfl
  have hthree : ps.length - 1 = 3 ↔ ps.length = 4 := by omega
  rw [dhcpv6AssignGlobalIp, if_neg (by omega), htext, cutSlash_append hslash]
  simp only [hwidth, hvalue, if_false, hlast, hfront, hcut, count_intercalate hpieces, hthree, ne_eq,
    not_true, false_and]
  rw [if_neg (by omega)]

/-- A prefix of at most four groups is filled up with zeros, and the modified EUI-64 of the hardware
address follows it. -/
theorem globalAddress_eui64 {line : List Char} {mac : Mac} (h : HardwareLine mac line)
    {ps : List (List Char)} {gs : List UInt16} (hps : hexGroups ps = some gs) (hm : ps.length ≤ 4)
    {len : Nat} (hlen : len ≤ 64) :
    ∃ text ip, dhcpv6AssignGlobalIp line ([':'].intercalate ps ++ "::/".toList ++ decimal len) =
        .address text ∧ readIpv6 text = some ip ∧
      ip.groups = gs ++ List.replicate (4 - ps.length) 0 ++ mac.eui64 := by
  obtain ⟨qs, hqs, happend⟩ := appendInterfaceId_line h
  have hbound := length_intercalate_le hps
  have hshort : (decimal len).length ≤ 2 := by
    rw [decimal, Nat.length_toDigits_le_iff (by decide) (by decide)]
    omega
  have hwidth : "::/".toList.length = 3 := by decide
  have htwo : "::".toList.length = 2 := by decide
  obtain ⟨ip, hread, hgroups⟩ := address_of_groups hps hqs hm rfl
  have hroom : ([':'].intercalate ps ++ "::/".toList ++ decimal len).length < 64 := by
    rw [List.length_append, List.length_append, hwidth]
    omega
  have hvalue : Nat.ofDigitChars 10 (decimal len) 0 ≤ 64 := by
    rw [Nat.ofDigitChars_ten_toDigits]
    exact hlen
  refine ⟨_, ip, ?_, hread, hgroups⟩
  rw [dhcpv6AssignGlobalIp_groups hps Nat.toDigits_ne_nil isDigit_decimal hvalue hroom, happend, if_neg]
  split
  · rw [List.length_append, List.length_singleton]
    omega
  · rw [List.length_append, htwo]
    omega

/-- At most four groups, a double colon, a slash and a number of at most 64. -/
def WellFormed (sitePrefix : List Char) : Prop :=
  ∃ ps gs digits, hexGroups ps = some gs ∧ ps.length ≤ 4 ∧ digits ≠ [] ∧ (∀ c ∈ digits, c.isDigit) ∧
    Nat.ofDigitChars 10 digits 0 ≤ 64 ∧ sitePrefix = [':'].intercalate ps ++ "::/".toList ++ digits

/-- The text fits its array and has a slash, and what follows the last one is a number greater than 64,
or at least two characters are in front of it and neither of the last two is a colon. -/
def Refused (sitePrefix : List Char) : Prop :=
  sitePrefix.length < 64 ∧ ∃ globalIP length, cutSlash sitePrefix = some (globalIP, length) ∧
    (64 < (atoi length).toNat ∨ 2 ≤ globalIP.length ∧
      globalIP[globalIP.length - 1]? ≠ some ':' ∧ globalIP[globalIP.length - 2]? ≠ some ':')

theorem dhcpv6AssignGlobalIp_eq_error {line : List Char} {mac : Mac} (h : HardwareLine mac line)
    (sitePrefix : List Char) : dhcpv6AssignGlobalIp line sitePrefix = .error ↔ Refused sitePrefix := by
  have hnever : ∀ globalIP, appendInterfaceId line globalIP ≠ .error := by
    obtain ⟨qs, -, happend⟩ := appendInterfaceId_line h
    intro globalIP
    rw [happend]
    split <;> simp
  unfold dhcpv6AssignGlobalIp Refused
  by_cases hroom : 64 ≤ sitePrefix.length
  · simp [hroom]
  rw [if_neg hroom]
  cases hcut : cutSlash sitePrefix with
  | none => simp
  | some cut =>
    obtain ⟨globalIP, length⟩ := cut
    by_cases hlong : 64 < (atoi length).toNat
    · simp [hlong, Nat.lt_of_not_le hroom]
    by_cases hshort : globalIP.length < 2
    · simp [hlong, hshort]
    by_cases hcolons : globalIP[globalIP.length - 1]? ≠ some ':' ∧ globalIP[globalIP.length - 2]? ≠ some ':'
    · simp [hlong, hshort, hcolons, Nat.lt_of_not_le hroom, Nat.le_of_not_lt hshort]
    · simp only [hlong, hshort, hcolons, if_false, hnever, false_iff]
      rintro ⟨-, _, _, hpair, hlarge | ⟨-, htests⟩⟩
      · cases hpair
        exact hlong hlarge
      · cases hpair
        exact hcolons htests

/-- A malformed prefix is refused, and nothing but addresses comes out, exactly when the prefix is well
formed or one of the tests refuses it. -/
theorem malformed_refused_iff {line : List Char} {mac : Mac} (h : HardwareLine mac line)
    (sitePrefix : List Char) :
    ((¬ WellFormed sitePrefix → dhcpv6AssignGlobalIp line sitePrefix = .error) ∧
        ∀ text, dhcpv6AssignGlobalIp line sitePrefix = .address text → ∃ ip, readIpv6 text = some ip) ↔
      WellFormed sitePrefix ∨ Refused sitePrefix := by
  rw [dhcpv6AssignGlobalIp_eq_error h]
  constructor
  · rintro ⟨hrefused, -⟩
    by_cases hformed : WellFormed sitePrefix
    · exact .inl hformed
    · exact .inr (hrefused hformed)
  · rintro (hformed | hrefused)
    · refine ⟨fun hnot => absurd hformed hnot, fun text htext => ?_⟩
      obtain ⟨ps, gs, digits, hps, hm, hne, hdigits, hlen, rfl⟩ := hformed
      by_cases hroom : ([':'].intercalate ps ++ "::/".toList ++ digits).length < 64
      · obtain ⟨qs, hqs, happend⟩ := appendInterfaceId_line h
        rw [dhcpv6AssignGlobalIp_groups hps hne hdigits hlen hroom, happend] at htext
        obtain ⟨ip, hread, -⟩ := address_of_groups hps hqs hm rfl
        generalize (if ps.length = 4 then [':'].intercalate ps ++ [':']
          else [':'].intercalate ps ++ "::".toList) = globalIP at htext hread
        split at htext
        · cases htext
        · cases htext
          exact ⟨ip, hread⟩
      · rw [dhcpv6AssignGlobalIp, if_pos (by omega)] at htext
        cases htext
    · refine ⟨fun _ => hrefused, fun text htext => ?_⟩
      rw [(dhcpv6AssignGlobalIp_eq_error h _).mpr hrefused] at htext
      cases htext

namespace Example

def brlan0 : List Char := "brlan0    Link encap:Ethernet  HWaddr 00:50:56:92:00:22  ".toList

def mac : Mac := ⟨0x00, 0x50, 0x56, 0x92, 0x00, 0x22⟩

theorem brlan0_line : HardwareLine mac brlan0 :=
  ⟨"brlan0    Link encap:Ethernet  ".toList, "00:50:56:92:00:22".toList, "  ".toList, by decide +kernel,
    by decide +kernel, by decide +kernel, by decide +kernel, by decide +kernel⟩

end Example

open Example in
theorem globalAddress_brlan0 : ∃ text ip,
    dhcpv6AssignGlobalIp brlan0 "2001:db8:1::/64".toList = .address text ∧ readIpv6 text = some ip ∧
      ip.groups = [0x2001, 0xdb8, 1, 0, 0x250, 0x56ff, 0xfe92, 0x22] := by
  have hgroups : hexGroups ["2001".toList, "db8".toList, "1".toList] = some [0x2001, 0xdb8, 1] := by
    decide +kernel
  have htext : [':'].intercalate ["2001".toList, "db8".toList, "1".toList] ++ "::/".toList ++ decimal 64 =
      "2001:db8:1::/64".toList := by decide +kernel
  have hid : mac.eui64 = [0x250, 0x56ff, 0xfe92, 0x22] := by decide +kernel
  have hassigned := globalAddress_eui64 brlan0_line hgroups (by decide) (Nat.le_refl 64)
  rw [htext, hid] at hassigned
  exact hassigned

open Example in
theorem refused_brlan0 :
    (¬ WellFormed "2001:db8/64".toList → dhcpv6AssignGlobalIp brlan0 "2001:db8/64".toList = .error) ∧
      ∀ text, dhcpv6AssignGlobalIp brlan0 "2001:db8/64".toList = .address text →
        ∃ ip, readIpv6 text = some ip :=
  (malformed_refused_iff brlan0_line _).mpr
    (.inr ⟨by decide, "2001:db8".toList, "64".toList, by decide +kernel, .inr (by decide +kernel)⟩)

open Example in
/-- A single colon at the end is enough, and what comes out is not an address. -/
theorem single_colon_accepted :
    ¬ ((¬ WellFormed "2001:db8:/64".toList → dhcpv6AssignGlobalIp brlan0 "2001:db8:/64".toList = .error) ∧
      ∀ text, dhcpv6AssignGlobalIp brlan0 "2001:db8:/64".toList = .address text →
        ∃ ip, readIpv6 text = some ip) := by
  rintro ⟨-, hread⟩
  obtain ⟨ip, hip⟩ := hread "2001:db8:0250:56FF:FE92:0022".toList (by decide +kernel)
  have hnone : readIpv6 "2001:db8:0250:56FF:FE92:0022".toList = none := by decide +kernel
  rw [hnone] at hip
  cases hip

end WanManager.GlobalAddress
