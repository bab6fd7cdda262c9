import WanManager.MaptAgreement
import WanManager.MaptDecoding
import WanManager.Wire.Overlay

/-! # Several rules in one payload

What the parser of option 95 leaves of its rules when there are more than one, and what of those
that came first is still there. A rule writes its prefix over the one before, and its port
parameters only if it has any. -/

namespace WanManager
open Wire Text

namespace Mapt

/-! ## What an option does -/

/-- The values of port parameters. -/
structure PortValues where
  offset : UInt8
  psidLen : UInt8
  psid : Nat
  deriving DecidableEq, Repr

/-- The port parameters of a rule that has some. -/
def portValues (cur : List UInt8) (optLen : Nat) : Option PortValues :=
  if ReadsPortParams cur optLen then
    some
      { offset := cur.getD (ruleEnd cur + 4) 0
        psidLen := cur.getD (ruleEnd cur + 5) 0
        psid := (byteAt cur (ruleEnd cur + 6) * 256 + byteAt cur (ruleEnd cur + 7)) /
          2 ^ (16 - byteAt cur (ruleEnd cur + 5)) }
  else none

/-- The members after a rule that can be read. -/
def applyRule (inetNtop : List UInt8 → String) (r : RuleFields) (port : Option PortValues)
    (d : MaptData) : MaptData :=
  let ratio := 2 ^ (r.eaLen.toNat + r.prefix4Len.toNat - 32)
  let d := storeRatio ratio (storeRule inetNtop r d)
  match port with
  | none => d
  | some p => storePortParams p.offset p.psidLen
      (if r.eaLen.toNat = 0 then 2 ^ p.psidLen.toNat else ratio) p.psid d

theorem value_readPortParams {t : Target} {cur : List UInt8} {offset optLen : Nat} {d : MaptData}
    (hroom : offset + 8 ≤ cur.length) (h16 : byteAt cur (offset + 5) ≤ 16) :
    (readPortParams t cur offset optLen d).value =
      some (storePortParams (cur.getD (offset + 4) 0) (cur.getD (offset + 5) 0)
        (if d.eaLen = 0 then 2 ^ (cur.getD (offset + 5) 0).toNat else d.ratio)
        ((byteAt cur (offset + 6) * 256 + byteAt cur (offset + 7)) /
          2 ^ (16 - byteAt cur (offset + 5))) d) := by
  have hget (i : Nat) (hi : i < 8) : cur[offset + i]? = some (cur.getD (offset + i) 0) :=
    getElem?_eq_getD (by omega)
  have hlen : (cur.getD (offset + 5) 0).toNat = byteAt cur (offset + 5) := rfl
  have hratio : ratioOf t (byteAt cur (offset + 5)) = 2 ^ byteAt cur (offset + 5) :=
    if_pos ⟨by omega, by omega⟩
  have hshift : (0 : Int) ≤ 16 - (byteAt cur (offset + 5) : Int) ∧
      16 - (byteAt cur (offset + 5) : Int) < 32 := by omega
  have hcount : (16 - (byteAt cur (offset + 5) : Int)).toNat = 16 - byteAt cur (offset + 5) := by
    omega
  have hlast : offset + 6 + 2 ≤ cur.length := hroom
  unfold readPortParams
  simp only [Logged.value_bind, value_readByte, hget 4 (by decide), hget 5 (by decide),
    Option.bind_some, psidRatio_eq, hlen, hratio, value_readBytes, hlast, if_true,
    ntohs_take (show 0 < 2 by decide) (show 1 < 2 by decide), shiftRight, Logged.value_access,
    hshift, and_self, hcount, Logged.value_pure]

theorem value_parsePortParams {t : Target} {cur : List UInt8} {offset optLen : Nat} {d : MaptData}
    (hroom : offset + 8 ≤ cur.length) :
    (parsePortParams t cur offset optLen d).value =
      if HasPortParams cur offset then (readPortParams t cur offset optLen d).value else some d := by
  have hroom4 : offset + 4 ≤ cur.length := by omega
  unfold parsePortParams
  rw [Logged.value_bind, value_readBytes, if_pos hroom4, Option.bind_some]
  simp only [ntohs_take (show 0 < 4 by decide) (show 1 < 4 by decide),
    ntohs_take (show 2 < 4 by decide) (show 3 < 4 by decide), Nat.add_zero]
  by_cases hpp : HasPortParams cur offset
  · have hif := hpp
    unfold HasPortParams at hif
    rw [if_pos hif, if_pos hpp]
  · have hif := hpp
    unfold HasPortParams at hif
    rw [if_neg hif, if_neg hpp, Logged.value_pure]

theorem value_parseRule {inetNtop : List UInt8 → String} {t : Target} {cur : List UInt8}
    {optLen : Nat} {d : MaptData} (hlen : optLen ≤ cur.length) (h : RuleFits cur optLen) :
    (parseRule inetNtop t cur optLen d).value =
      some (applyRule inetNtop (ruleAt cur) (portValues cur optLen) d) := by
  obtain ⟨⟨h8, hn, h24⟩, hratio, hpsid⟩ := h
  have hread : (readRule t cur optLen).value = some (ruleAt cur) :=
    value_readRule (by omega) (by omega) h24
  have h6 : (ruleAt cur).prefix6Len.toNat = byteAt cur 7 := rfl
  have hbits : ((ruleAt cur).eaLen.toNat : Int) - (32 - ((ruleAt cur).prefix4Len.toNat : Int)) =
      (byteAt cur 1 + byteAt cur 2 - 32 : Nat) := by
    show (byteAt cur 1 : Int) - (32 - (byteAt cur 2 : Int)) = _
    omega
  have hpow : ratioOf t (byteAt cur 1 + byteAt cur 2 - 32 : Nat) =
      2 ^ ((ruleAt cur).eaLen.toNat + (ruleAt cur).prefix4Len.toNat - 32) :=
    if_pos ⟨by omega, by omega⟩
  unfold parseRule
  rw [Logged.value_bind, hread, Option.bind_some, hbits, Logged.value_bind, value_ratio,
    Option.bind_some, hpow, h6]
  simp only [applyRule]
  generalize hd : storeRatio _ (storeRule inetNtop (ruleAt cur) d) = d'
  have hea : d'.eaLen = (ruleAt cur).eaLen.toNat := by rw [← hd]; rfl
  have hkept : d'.ratio = 2 ^ ((ruleAt cur).eaLen.toNat + (ruleAt cur).prefix4Len.toNat - 32) := by
    rw [← hd]
    rfl
  by_cases hleft : bytesLeftOut optLen (byteAt cur 7) = 8
  · have hroom := bytesLeftOut_eq hn hleft
    have hend : 8 + prefixBytes (byteAt cur 7) = ruleEnd cur := rfl
    rw [hend] at hroom ⊢
    rw [if_pos hleft, value_parsePortParams (by omega)]
    by_cases hpp : HasPortParams cur (ruleEnd cur)
    · have hports : ReadsPortParams cur optLen := ⟨hleft, hpp⟩
      rw [if_pos hpp, value_readPortParams (by omega) (hpsid hports), portValues, if_pos hports,
        hea, hkept]
    · rw [if_neg hpp, portValues, if_neg fun hports => hpp hports.2]
  · rw [if_neg hleft, portValues, if_neg fun hports => hleft hports.1]
    rfl

/-! ## Options in a payload -/

/-- An option whose bytes can be read. -/
def WellFormed (o : Opt) : Prop := Fits ⟨o.type, o.bytes.length, o.bytes⟩

def rulePrefix (o : Opt) : Option (List UInt8) :=
  if o.type = optionRule then some (ruleAt o.bytes).prefix6 else none

def rulePort (o : Opt) : Option PortValues :=
  if o.type = optionRule then portValues o.bytes o.bytes.length else none

theorem getD_append_left {a b : List UInt8} {i : Nat} (h : i < a.length) :
    (a ++ b).getD i 0 = a.getD i 0 := by
  simp [List.getD, List.getElem?_append_left h]

theorem byteAt_append {a b : List UInt8} {i : Nat} (h : i < a.length) :
    byteAt (a ++ b) i = byteAt a i := by
  rw [byteAt, getD_append_left h, byteAt]

/-- What is read of a rule lies in its own bytes. -/
theorem ruleAt_append {a b : List UInt8} (h8 : 8 ≤ a.length)
    (hn : 8 + prefixBytes (byteAt a 7) ≤ a.length) : ruleAt (a ++ b) = ruleAt a := by
  have h7 : byteAt (a ++ b) 7 = byteAt a 7 := byteAt_append (by omega)
  have htake (i n : Nat) (h : i + n ≤ a.length) : ((a ++ b).drop i).take n = (a.drop i).take n := by
    rw [List.drop_append_of_le_length (by omega), List.take_append_of_le_length]
    rw [List.length_drop]
    omega
  unfold ruleAt
  rw [h7, htake 3 4 (by omega), htake 8 _ hn]
  simp only [getD_append_left (show 0 < a.length by omega), getD_append_left (show 1 < a.length by omega),
    getD_append_left (show 2 < a.length by omega), getD_append_left (show 7 < a.length by omega)]

theorem readsPortParams_append {a b : List UInt8} (h8 : 8 ≤ a.length)
    (hn : 8 + prefixBytes (byteAt a 7) ≤ a.length) :
    ReadsPortParams (a ++ b) a.length ↔ ReadsPortParams a a.length := by
  have h7 : byteAt (a ++ b) 7 = byteAt a 7 := byteAt_append (by omega)
  unfold ReadsPortParams ruleEnd
  rw [h7]
  refine and_congr_right fun hleft => ?_
  have hroom := bytesLeftOut_eq hn hleft
  unfold HasPortParams
  rw [byteAt_append (by omega), byteAt_append (by omega), byteAt_append (by omega),
    byteAt_append (by omega)]

theorem portValues_append {a b : List UInt8} (h8 : 8 ≤ a.length)
    (hn : 8 + prefixBytes (byteAt a 7) ≤ a.length) :
    portValues (a ++ b) a.length = portValues a a.length := by
  have h7 : byteAt (a ++ b) 7 = byteAt a 7 := byteAt_append (by omega)
  unfold portValues
  by_cases hports : ReadsPortParams a a.length
  · have hroom := bytesLeftOut_eq hn hports.1
    have hend : ruleEnd (a ++ b) = ruleEnd a := by rw [ruleEnd, h7, ruleEnd]
    have hle : ruleEnd a + 8 ≤ a.length := hroom
    rw [if_pos ((readsPortParams_append h8 hn).mpr hports), if_pos hports, hend,
      getD_append_left (by omega), getD_append_left (by omega), byteAt_append (by omega),
      byteAt_append (by omega), byteAt_append (by omega)]
  · rw [if_neg (mt (readsPortParams_append h8 hn).mp hports), if_neg hports]

theorem ruleFits_append {a b : List UInt8} (h : RuleFits a a.length) :
    RuleFits (a ++ b) a.length := by
  obtain ⟨⟨h8, hn, h24⟩, hratio, hpsid⟩ := h
  have hbyte (i : Nat) (hi : i < a.length) : byteAt (a ++ b) i = byteAt a i := byteAt_append hi
  have h7 := hbyte 7 (by omega)
  refine ⟨⟨h8, by rwa [h7], by rwa [h7]⟩, ?_, fun hports => ?_⟩
  · rw [hbyte 1 (by omega), hbyte 2 (by omega)]
    exact hratio
  · have hports' := (readsPortParams_append h8 hn).mp hports
    have hroom := bytesLeftOut_eq hn hports'.1
    have hend : ruleEnd (a ++ b) = ruleEnd a := by rw [ruleEnd, h7, ruleEnd]
    have hle : ruleEnd a + 8 ≤ a.length := hroom
    rw [hend, hbyte _ (by omega)]
    exact hpsid hports'

/-- The members after an option that can be read. -/
def applyOption (inetNtop : List UInt8 → String) (d : MaptData) (o : Opt) : MaptData :=
  if o.type = optionRule then
    applyRule inetNtop (ruleAt o.bytes) (portValues o.bytes o.bytes.length) d
  else if o.type = optionDmr then
    { d with
      brIPv6PrefixLen := byteAt o.bytes 0
      brIPv6Prefix := inetNtop
        (((o.bytes.drop 1).take (byteAt o.bytes 0 / 8) ++ .replicate 24 0).take 16) }
  else d

theorem value_parseDmr {inetNtop : List UInt8 → String} {a b : List UInt8} {d : MaptData}
    (h : DmrFits a a.length) :
    (parseDmr inetNtop (a ++ b) a.length d).value =
      some
        { d with
          brIPv6PrefixLen := byteAt a 0
          brIPv6Prefix := inetNtop
            (((a.drop 1).take (byteAt a 0 / 8) ++ .replicate 24 0).take 16) } := by
  obtain ⟨h1, h24⟩ := h
  have hget : (a ++ b)[0]? = some (a.getD 0 0) := by
    rw [List.getElem?_append_left (by omega), getElem?_eq_getD (by omega)]
  have hlen : (a.getD 0 0).toNat = byteAt a 0 := rfl
  have hroom : 1 + byteAt a 0 / 8 ≤ (a ++ b).length := by
    rw [List.length_append]
    omega
  have hread : ((a ++ b).drop 1).take (byteAt a 0 / 8) = (a.drop 1).take (byteAt a 0 / 8) := by
    rw [List.drop_append_of_le_length (by omega), List.take_append_of_le_length]
    rw [List.length_drop]
    omega
  unfold parseDmr
  simp only [Logged.value_bind, value_readByte, hget, Option.bind_some, hlen, value_readBytes, hroom,
    if_true, hread, value_copyInto, h24, Logged.value_pure]

theorem value_parseOption {inetNtop : List UInt8 → String} {t : Target} {o : Opt}
    {tail : List UInt8} {d : MaptData} (h : WellFormed o) :
    (parseOption inetNtop t ⟨o.type, o.bytes.length, o.bytes ++ tail⟩ d).value =
      some (applyOption inetNtop d o) := by
  unfold parseOption applyOption
  by_cases hrule : o.type = optionRule
  · have hfits := h.1 hrule
    obtain ⟨h8, hn, -⟩ := hfits.holds
    have hlen : o.bytes.length ≤ (o.bytes ++ tail).length := by simp
    rw [if_pos hrule, if_pos hrule, value_parseRule hlen (ruleFits_append hfits),
      ruleAt_append h8 hn, portValues_append h8 hn]
  · rw [if_neg hrule, if_neg hrule]
    by_cases hdmr : o.type = optionDmr
    · rw [if_pos hdmr, if_pos hdmr, value_parseDmr (h.2 hdmr)]
    · rw [if_neg hdmr, if_neg hdmr, Logged.value_pure]

/-- The members after some options. -/
def applyAll (inetNtop : List UInt8 → String) (c : List Opt) (d : MaptData) : MaptData :=
  c.foldl (applyOption inetNtop) d

theorem value_parseOptions {inetNtop : List UInt8 → String} {t : Target} {slack : List UInt8}
    {c : List Opt} {d : MaptData} (h : ∀ o ∈ c, WellFormed o) :
    (parseOptions inetNtop t (foundIn slack c) d).value = some (applyAll inetNtop c d) := by
  induction c generalizing d with
  | nil => rfl
  | cons o c ih =>
    obtain ⟨ho, hc⟩ := List.forall_mem_cons.mp h
    rw [foundIn, parseOptions_cons, Logged.value_bind, value_parseOption ho, Option.bind_some, ih hc]
    rfl

/-- The second byte of the payload, which is taken for that of one without options if it is 0. -/
def secondByte (c : List Opt) : Nat := byteAt (encodeAll c) 1

/-- What the parser leaves of a payload that can be read. -/
theorem value_parseResponse {inetNtop : List UInt8 → String} {t : Target} {slack : List UInt8}
    {c : List Opt} {d : MaptData} (hne : c ≠ []) (h : ∀ o ∈ c, WellFormed o) :
    (parseResponse inetNtop t (encodeAll c ++ slack) (encodeAll c).length d).value.map (·.2) =
      some (if secondByte c = 0 then d else applyAll inetNtop c d) := by
  have hlen : 2 ≤ (encodeAll c).length := by
    obtain ⟨o, c, rfl⟩ := List.exists_cons_of_ne_nil hne
    simp
    omega
  have hsecond : (encodeAll c ++ slack)[1]? = some ((encodeAll c).getD 1 0) := by
    rw [List.getElem?_append_left (by omega), getElem?_eq_getD (by omega)]
  have hzero : (encodeAll c).getD 1 0 = 0 ↔ secondByte c = 0 := by
    rw [secondByte, byteAt, ← UInt8.toNat_inj]
    rfl
  obtain ⟨hloop, -⟩ := parseLoop_walk inetNtop t (encodeAll c).length (encodeAll c ++ slack) d
    (by simp)
  rw [walk_encodeAll, value_parseOptions h] at hloop
  unfold parseResponse
  rw [Logged.value_bind, value_readByte, hsecond, Option.bind_some]
  by_cases h0 : (encodeAll c).getD 1 0 = 0
  · rw [if_pos h0, if_pos (hzero.mp h0)]
    rfl
  · rw [if_neg h0, if_neg (mt hzero.mpr h0), Logged.value_bind, hloop, Option.map_some,
      Option.bind_some]
    split <;> rfl

/-! ## What rules leave -/

def rulePrefixes (c : List Opt) : List (List UInt8) := c.filterMap rulePrefix

def rulePorts (c : List Opt) : List PortValues := c.filterMap rulePort

theorem rulePrefixes_cons (o : Opt) (c : List Opt) :
    rulePrefixes (o :: c) = (rulePrefix o).toList ++ rulePrefixes c := by
  cases h : rulePrefix o <;> simp [rulePrefixes, h]

theorem rulePorts_cons (o : Opt) (c : List Opt) :
    rulePorts (o :: c) = (rulePort o).toList ++ rulePorts c := by
  cases h : rulePort o <;> simp [rulePorts, h]

theorem applyAll_cons (inetNtop : List UInt8 → String) (o : Opt) (c : List Opt) (d : MaptData) :
    applyAll inetNtop (o :: c) d = applyAll inetNtop c (applyOption inetNtop d o) := rfl

theorem prefixH_applyRule (inetNtop : List UInt8 → String) (r : RuleFields)
    (port : Option PortValues) (d : MaptData) :
    (applyRule inetNtop r port d).ruleIPv6PrefixH = overlay r.prefix6 d.ruleIPv6PrefixH := by
  cases port <;> rfl

theorem psid_applyRule (inetNtop : List UInt8 → String) (r : RuleFields)
    (port : Option PortValues) (d : MaptData) :
    ((applyRule inetNtop r port d).psidLen, (applyRule inetNtop r port d).psid) =
      (port.map fun p => (p.psidLen.toNat, p.psid % 65536)).getD (d.psidLen, d.psid) := by
  cases port <;> rfl

/-- The prefixes are written over one another. -/
theorem prefixH_applyAll (inetNtop : List UInt8 → String) (c : List Opt) (d : MaptData) :
    (applyAll inetNtop c d).ruleIPv6PrefixH = overlays (rulePrefixes c) d.ruleIPv6PrefixH := by
  induction c generalizing d with
  | nil => rfl
  | cons o c ih =>
    rw [applyAll_cons, ih, rulePrefixes_cons, overlays_append]
    by_cases hrule : o.type = optionRule
    · rw [applyOption, rulePrefix, if_pos hrule, if_pos hrule, prefixH_applyRule]
      rfl
    · have hkept : (applyOption inetNtop d o).ruleIPv6PrefixH = d.ruleIPv6PrefixH := by
        rw [applyOption, if_neg hrule]
        split <;> rfl
      rw [rulePrefix, if_neg hrule, hkept]
      rfl

/-- The port parameters are those of the last rule that has some. -/
theorem psid_applyAll (inetNtop : List UInt8 → String) (c : List Opt) (d : MaptData) :
    ((applyAll inetNtop c d).psidLen, (applyAll inetNtop c d).psid) =
      ((rulePorts c).getLast?.map fun p => (p.psidLen.toNat, p.psid % 65536)).getD
        (d.psidLen, d.psid) := by
  induction c generalizing d with
  | nil => rfl
  | cons o c ih =>
    rw [applyAll_cons, ih, rulePorts_cons]
    have hstep : ((applyOption inetNtop d o).psidLen, (applyOption inetNtop d o).psid) =
        ((rulePort o).map fun p => (p.psidLen.toNat, p.psid % 65536)).getD (d.psidLen, d.psid) := by
      unfold applyOption rulePort
      split
      · exact psid_applyRule ..
      · split <;> rfl
    rw [hstep]
    cases rulePort o with
    | none => rfl
    | some p =>
      rw [Option.toList_some, List.singleton_append, List.getLast?_cons, Option.map_some,
        Option.map_some, Option.getD_some, Option.getD_some]
      cases (rulePorts c).getLast? <;> rfl

/-- The members that a rule sets whatever was there agree, and the text of its prefix is that of
the bytes. -/
structure SameRest (inetNtop : List UInt8 → String) (d d' : MaptData) : Prop where
  bFMR : d.bFMR = d'.bFMR
  eaLen : d.eaLen = d'.eaLen
  prefix4Len : d.ruleIPv4PrefixLen = d'.ruleIPv4PrefixLen
  prefix4 : d.ruleIPv4Prefix = d'.ruleIPv4Prefix
  prefix6Len : d.ruleIPv6PrefixLen = d'.ruleIPv6PrefixLen
  ratio : d.ratio = d'.ratio
  offset : d.psidOffset = d'.psidOffset ∧ d.psidOffset ≠ 0
  text : d.ruleIPv6Prefix = inetNtop (d.ruleIPv6PrefixH.take 16)
  text' : d'.ruleIPv6Prefix = inetNtop (d'.ruleIPv6PrefixH.take 16)

theorem sameRest_applyRule (inetNtop : List UInt8 → String) (r : RuleFields)
    (port : Option PortValues) (d d' : MaptData) :
    SameRest inetNtop (applyRule inetNtop r port d) (applyRule inetNtop r port d') := by
  cases port with
  | none => exact ⟨rfl, rfl, rfl, rfl, rfl, rfl, ⟨rfl, (by decide : 6 ≠ 0)⟩, rfl, rfl⟩
  | some p =>
    refine ⟨rfl, rfl, rfl, rfl, rfl, rfl, ⟨rfl, ?_⟩, rfl, rfl⟩
    simp only [applyRule, storePortParams]
    split
    · next hne =>
      intro h0
      exact hne (UInt8.toNat_inj.mp h0)
    · decide

theorem SameRest.applyAll {inetNtop : List UInt8 → String} {c : List Opt} {d d' : MaptData}
    (h : SameRest inetNtop d d' ∨ ∃ o ∈ c, o.type = optionRule) :
    SameRest inetNtop (applyAll inetNtop c d) (applyAll inetNtop c d') := by
  induction c generalizing d d' with
  | nil => exact h.resolve_right (by simp)
  | cons o c ih =>
    refine ih ?_
    by_cases hrule : o.type = optionRule
    · rw [applyOption, applyOption, if_pos hrule, if_pos hrule]
      exact .inl (sameRest_applyRule ..)
    · obtain h | ⟨o', ho', hrule'⟩ := h
      · refine .inl ?_
        rw [applyOption, applyOption, if_neg hrule, if_neg hrule]
        split
        · exact ⟨h.bFMR, h.eaLen, h.prefix4Len, h.prefix4, h.prefix6Len, h.ratio, h.offset, h.text,
            h.text'⟩
        · exact h
      · obtain rfl | ho' := List.mem_cons.mp ho'
        · exact absurd hrule' hrule
        · exact .inr ⟨o', ho', hrule'⟩

/-- The members that belong to the rule. -/
def ruleMembers (d : MaptData) : MaptData :=
  { d with brIPv6PrefixLen := 0, brIPv6Prefix := "", pdIPv6Prefix := "", pdIPv6PrefixLen := 0 }

theorem SameRest.ruleMembers_iff {inetNtop : List UInt8 → String} {d d' : MaptData}
    (h : SameRest inetNtop d d') : ruleMembers d = ruleMembers d' ↔
      d.ruleIPv6PrefixH = d'.ruleIPv6PrefixH ∧ (d.psidLen, d.psid) = (d'.psidLen, d'.psid) := by
  constructor
  · intro heq
    have hH := congrArg MaptData.ruleIPv6PrefixH heq
    have hlen := congrArg MaptData.psidLen heq
    have hpsid := congrArg MaptData.psid heq
    exact ⟨hH, Prod.ext hlen hpsid⟩
  · rintro ⟨hH, hpsid⟩
    obtain ⟨hlen, hpsid⟩ := Prod.mk.inj hpsid
    have htext : d.ruleIPv6Prefix = d'.ruleIPv6Prefix := by rw [h.text, h.text', hH]
    simp only [ruleMembers, h.bFMR, h.eaLen, h.prefix4Len, h.prefix4, h.prefix6Len, h.ratio,
      h.offset.1, htext, hH, hlen, hpsid]

/-! ## Two payloads -/

/-- The parser leaves the same of the rules of `c₂` whether or not `c₁` comes before it. -/
def SameRules (inetNtop : List UInt8 → String) (t : Target) (slack : List UInt8)
    (pd : String × Nat) (c₁ c₂ : List Opt) : Prop :=
  let zeroed : MaptData := { pdIPv6Prefix := pd.1, pdIPv6PrefixLen := pd.2 }
  ∃ r r', (parseResponse inetNtop t (encodeAll (c₁ ++ c₂) ++ slack) (encodeAll (c₁ ++ c₂)).length
      zeroed).value = some r ∧
    (parseResponse inetNtop t (encodeAll c₂ ++ slack) (encodeAll c₂).length zeroed).value = some r' ∧
    ruleMembers r.2 = ruleMembers r'.2

/-- Nothing that the rules of `c₁` leave is there behind those of `c₂`: bytes of a prefix past
the longest one of `c₂` are 0, and a length of the PSID is 0 unless `c₂` gives one. -/
structure Forgets (c₁ c₂ : List Opt) : Prop where
  behind : ∀ i, (∀ p ∈ rulePrefixes c₂, p.length ≤ i) →
    ∀ p ∈ reaching (rulePrefixes c₁) i, p[i]? = some 0
  psid : rulePorts c₂ = [] → ∀ p ∈ (rulePorts c₁).getLast?, p.psidLen = 0

theorem length_rulePrefix {o : Opt} (h : WellFormed o) : ∀ p ∈ rulePrefix o, p.length ≤ 24 := by
  intro p hp
  unfold rulePrefix at hp
  split at hp
  · next hrule =>
    obtain rfl := Option.some.inj hp
    have h24 : prefixBytes (byteAt o.bytes 7) ≤ 24 := (h.1 hrule).holds.2.2
    have hlen : (ruleAt o.bytes).prefix6.length ≤ prefixBytes (byteAt o.bytes 7) := by
      rw [ruleAt, length_masked]
      exact List.length_take_le _ _
    omega
  · simp at hp

theorem psid_rulePort {o : Opt} : ∀ p ∈ rulePort o, p.psidLen = 0 → p.psid = 0 := by
  intro p hp h0
  unfold rulePort portValues at hp
  split at hp
  · split at hp
    · obtain rfl := Option.some.inj hp
      have hlen : byteAt o.bytes (ruleEnd o.bytes + 5) = 0 := congrArg UInt8.toNat h0
      have hhi : byteAt o.bytes (ruleEnd o.bytes + 6) < 256 := UInt8.toNat_lt _
      have hlo : byteAt o.bytes (ruleEnd o.bytes + 7) < 256 := UInt8.toNat_lt _
      show _ / 2 ^ (16 - byteAt o.bytes (ruleEnd o.bytes + 5)) = 0
      rw [hlen]
      exact Nat.div_eq_of_lt (by omega)
    · simp at hp
  · simp at hp

theorem applyAll_append (inetNtop : List UInt8 → String) (c₁ c₂ : List Opt) (d : MaptData) :
    applyAll inetNtop (c₁ ++ c₂) d = applyAll inetNtop c₂ (applyAll inetNtop c₁ d) :=
  List.foldl_append

/-- What the rules of `c₁` leave from zeroed members on is forgotten. -/
theorem forgets_iff {inetNtop : List UInt8 → String} {c₁ c₂ : List Opt} {d : MaptData}
    (h₁ : ∀ o ∈ c₁, WellFormed o) (hH : d.ruleIPv6PrefixH = .replicate 24 0)
    (hpsid : (d.psidLen, d.psid) = (0, 0)) :
    (applyAll inetNtop c₂ (applyAll inetNtop c₁ d)).ruleIPv6PrefixH =
        (applyAll inetNtop c₂ d).ruleIPv6PrefixH ∧
      ((applyAll inetNtop c₂ (applyAll inetNtop c₁ d)).psidLen,
          (applyAll inetNtop c₂ (applyAll inetNtop c₁ d)).psid) =
        ((applyAll inetNtop c₂ d).psidLen, (applyAll inetNtop c₂ d).psid) ↔ Forgets c₁ c₂ := by
  have hbehind : (applyAll inetNtop c₂ (applyAll inetNtop c₁ d)).ruleIPv6PrefixH =
        (applyAll inetNtop c₂ d).ruleIPv6PrefixH ↔
      ∀ i, (∀ p ∈ rulePrefixes c₂, p.length ≤ i) →
        ∀ p ∈ reaching (rulePrefixes c₁) i, p[i]? = some 0 := by
    rw [prefixH_applyAll, prefixH_applyAll, prefixH_applyAll, overlays_eq_iff, hH]
    refine forall₂_congr fun i _ => ?_
    rw [getElem?_overlays]
    cases hr : reaching (rulePrefixes c₁) i with
    | none => simp
    | some p =>
      obtain ⟨hmem, hlt⟩ := of_reaching hr
      obtain ⟨o, ho, hp⟩ := List.mem_filterMap.mp hmem
      have h24 := length_rulePrefix (h₁ o ho) p hp
      have hzero : (List.replicate 24 (0 : UInt8))[i]? = some 0 := by
        rw [List.getElem?_replicate, if_pos (by omega)]
      rw [hzero]
      simp
  have hlast : ((applyAll inetNtop c₂ (applyAll inetNtop c₁ d)).psidLen,
          (applyAll inetNtop c₂ (applyAll inetNtop c₁ d)).psid) =
        ((applyAll inetNtop c₂ d).psidLen, (applyAll inetNtop c₂ d).psid) ↔
      (rulePorts c₂ = [] → ∀ p ∈ (rulePorts c₁).getLast?, p.psidLen = 0) := by
    rw [psid_applyAll, psid_applyAll, psid_applyAll, hpsid]
    cases h : rulePorts c₂ with
    | nil =>
      cases hp : (rulePorts c₁).getLast? with
      | none => simp
      | some p =>
        obtain ⟨o, -, ho⟩ := List.mem_filterMap.mp (List.mem_of_getLast? hp)
        have hpsid := psid_rulePort p ho
        simp only [List.getLast?_nil, Option.map_none, Option.getD_none, Option.map_some,
          Option.getD_some, Option.mem_some_iff, forall_eq', true_implies]
        constructor
        · intro heq
          exact UInt8.toNat_inj.mp (Prod.mk.inj heq).1
        · intro h0
          rw [h0, hpsid h0]
          rfl
    | cons p ports =>
      rw [List.getLast?_cons, Option.map_some, Option.getD_some, Option.getD_some]
      exact iff_of_true rfl fun hnil => absurd hnil (List.cons_ne_nil p ports)
  exact (and_congr hbehind hlast).trans ⟨fun h => ⟨h.1, h.2⟩, fun h => ⟨h.behind, h.psid⟩⟩

/-- The rules of a payload do not show in those behind them exactly when both payloads or none
are taken for empty ones and, where they are not, nothing that the first leaves is there behind
the second. -/
theorem sameRules_iff {inetNtop : List UInt8 → String} {t : Target} {slack : List UInt8}
    {pd : String × Nat} {c₁ c₂ : List Opt} (h₁ : ∀ o ∈ c₁, WellFormed o)
    (h₂ : ∀ o ∈ c₂, WellFormed o) (hrule : ∃ o ∈ c₂, o.type = optionRule) :
    SameRules inetNtop t slack pd c₁ c₂ ↔
      (secondByte (c₁ ++ c₂) = 0 ↔ secondByte c₂ = 0) ∧
        (secondByte c₂ ≠ 0 → Forgets c₁ c₂) := by
  obtain ⟨zeroed, hzeroed⟩ : ∃ d : MaptData, d = { pdIPv6Prefix := pd.1, pdIPv6PrefixLen := pd.2 } :=
    ⟨_, rfl⟩
  have hne : c₂ ≠ [] := by
    rintro rfl
    simp at hrule
  have hboth : ∀ o ∈ c₁ ++ c₂, WellFormed o := fun o ho =>
    (List.mem_append.mp ho).elim (h₁ o) (h₂ o)
  have hrun := @value_parseResponse inetNtop t slack _ zeroed
    (List.append_ne_nil_of_right_ne_nil c₁ hne) hboth
  have hrun' := @value_parseResponse inetNtop t slack _ zeroed hne h₂
  have hsame : SameRules inetNtop t slack pd c₁ c₂ ↔
      ruleMembers (if secondByte (c₁ ++ c₂) = 0 then zeroed
        else applyAll inetNtop (c₁ ++ c₂) zeroed) =
      ruleMembers (if secondByte c₂ = 0 then zeroed else applyAll inetNtop c₂ zeroed) := by
    obtain ⟨r, hr, hres⟩ := Option.map_eq_some_iff.mp hrun
    obtain ⟨r', hr', hres'⟩ := Option.map_eq_some_iff.mp hrun'
    rw [← hres, ← hres']
    unfold SameRules
    simp only [← hzeroed, hr, hr', Option.some.injEq, exists_and_left, exists_eq_left']
  have hrest := @SameRest.applyAll inetNtop _ (applyAll inetNtop c₁ zeroed) zeroed (.inr hrule)
  have hforgets := @forgets_iff inetNtop _ c₂ zeroed h₁ (by rw [hzeroed]) (by rw [hzeroed])
  rw [← hrest.ruleMembers_iff, ← applyAll_append] at hforgets
  -- a rule that was seen has an offset
  have hoffset : ∀ d, (applyAll inetNtop c₂ d).psidOffset ≠ 0 := fun d =>
    (@SameRest.applyAll inetNtop _ d d (.inr hrule)).offset.2
  have hzero : (ruleMembers zeroed).psidOffset = 0 := by
    rw [hzeroed]
    rfl
  rw [hsame]
  by_cases h : secondByte (c₁ ++ c₂) = 0
  · by_cases h' : secondByte c₂ = 0
    · simp [h, h']
    · simp only [h, h', if_true, if_false, iff_false, not_true, false_and, iff_false]
      intro heq
      exact hoffset zeroed ((congrArg MaptData.psidOffset heq).symm.trans hzero)
  · by_cases h' : secondByte c₂ = 0
    · simp only [h, h', if_true, if_false, false_iff, not_true, false_and, iff_false]
      intro heq
      rw [applyAll_append] at heq
      exact hoffset _ ((congrArg MaptData.psidOffset heq).trans hzero)
    · simp only [h, h', if_false, true_and, ne_eq, not_false_eq_true, true_implies]
      exact hforgets

/-- The prefix `2001:db8:4000::/40`. -/
def narrower : Prefix6 :=
  ⟨40, [0x20, 0x01, 0x0d, 0xb8, 0x40], by decide, by decide, by simp⟩

/-- A rule for 192.0.2.0/24 with 16 bits alone, and with a default mapping rule. -/
def ruleAlone (p : Prefix6) : List Opt := [(container p).opt .rule]

def ruleWithDmr (p : Prefix6) : List Opt := [(container p).opt .rule, (container p).opt .dmr]

theorem wellFormed_rule {p : Prefix6} (h : RuleFits (container p).rule.bytes
    (container p).rule.bytes.length) : WellFormed ((container p).opt .rule) :=
  ⟨fun _ => h, fun hdmr => absurd hdmr (by decide : optionRule ≠ optionDmr)⟩

theorem fits_documentation :
    RuleFits (container documentation).rule.bytes (container documentation).rule.bytes.length :=
  ⟨by decide, by decide, fun h => absurd h (by decide)⟩

theorem fits_narrower : RuleFits (container narrower).rule.bytes
    (container narrower).rule.bytes.length :=
  ⟨by decide, by decide, fun h => absurd h (by decide)⟩

theorem wellFormed_ruleAlone (p : Prefix6) (h : RuleFits (container p).rule.bytes
    (container p).rule.bytes.length) : ∀ o ∈ ruleAlone p, WellFormed o := by
  simp only [ruleAlone, List.mem_singleton, forall_eq]
  exact wellFormed_rule h

theorem wellFormed_ruleWithDmr : ∀ o ∈ ruleWithDmr documentation, WellFormed o := by
  simp only [ruleWithDmr, List.mem_cons, List.not_mem_nil, or_false, forall_eq_or_imp, forall_eq]
  exact ⟨wellFormed_rule fits_documentation,
    fun hrule => absurd hrule (by decide : optionDmr ≠ optionRule), fun _ => by decide⟩

theorem sameRules_documentation :
    SameRules (fun _ => "") ⟨fun _ _ => 0, fun _ _ => 0⟩ [] ("2001:db8:4000::", 56)
        (ruleAlone documentation) (ruleWithDmr documentation) ↔
      (secondByte (ruleAlone documentation ++ ruleWithDmr documentation) = 0 ↔
          secondByte (ruleWithDmr documentation) = 0) ∧
        (secondByte (ruleWithDmr documentation) ≠ 0 →
          Forgets (ruleAlone documentation) (ruleWithDmr documentation)) :=
  sameRules_iff (wellFormed_ruleAlone documentation fits_documentation) wellFormed_ruleWithDmr
    ⟨_, List.mem_cons_self .., rfl⟩

/-- A byte of the longer prefix is still there behind the shorter one that comes after it. -/
theorem narrower_shows : (∀ o ∈ ruleAlone narrower, WellFormed o) ∧
    (∀ o ∈ ruleWithDmr documentation, WellFormed o) ∧
    (∃ o ∈ ruleWithDmr documentation, o.type = optionRule) ∧
    (∃ o ∈ ruleWithDmr documentation, o.type = optionDmr) ∧
    ¬ SameRules (fun _ => "") ⟨fun _ _ => 0, fun _ _ => 0⟩ [] ("2001:db8:4000::", 56)
        (ruleAlone narrower) (ruleWithDmr documentation) := by
  refine ⟨wellFormed_ruleAlone narrower fits_narrower, wellFormed_ruleWithDmr,
    ⟨_, List.mem_cons_self .., rfl⟩, ⟨(container documentation).opt .dmr, by simp [ruleWithDmr], rfl⟩,
    ?_⟩
  rintro ⟨r, r', hr, hr', heq⟩
  have hbyte : ((parseResponse (fun _ => "") ⟨fun _ _ => 0, fun _ _ => 0⟩
      (encodeAll (ruleAlone narrower ++ ruleWithDmr documentation) ++ [])
      (encodeAll (ruleAlone narrower ++ ruleWithDmr documentation)).length
      { pdIPv6Prefix := "2001:db8:4000::", pdIPv6PrefixLen := 56 }).value.map
        fun r => r.2.ruleIPv6PrefixH[4]?) = some (some 0x40) := by decide +kernel
  have hbyte' : ((parseResponse (fun _ => "") ⟨fun _ _ => 0, fun _ _ => 0⟩
      (encodeAll (ruleWithDmr documentation) ++ []) (encodeAll (ruleWithDmr documentation)).length
      { pdIPv6Prefix := "2001:db8:4000::", pdIPv6PrefixLen := 56 }).value.map
        fun r => r.2.ruleIPv6PrefixH[4]?) = some (some 0) := by decide +kernel
  rw [hr, Option.map_some, Option.some.injEq] at hbyte
  rw [hr', Option.map_some, Option.some.injEq] at hbyte'
  have hH : (ruleMembers r.2).ruleIPv6PrefixH = (ruleMembers r'.2).ruleIPv6PrefixH :=
    congrArg MaptData.ruleIPv6PrefixH heq
  change r.2.ruleIPv6PrefixH = r'.2.ruleIPv6PrefixH at hH
  rw [hH, hbyte'] at hbyte
  exact absurd hbyte (by decide)

end Mapt

end WanManager
