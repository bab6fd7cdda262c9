import WanManager.Text.Dotted
import WanManager.Text.Scan
import WanManager.Wire.Logged
import WanManager.Wire.Options

/-! # Option 95

What `dhcpv6c_msg_apis.c` makes of the option that carries a MAP-T rule. Memory is a list of
bytes from a pointer on. A read outside of it and a copy that is too large for its buffer stop
the computation, for nothing is known of what follows; a shift whose count the language does
not define yields what the target makes of it. -/

namespace WanManager
open Wire Text

namespace Mapt

/-! ## Accesses -/

/-- An access to memory, or a shift. -/
inductive Access where
  /-- `count` bytes at `offset` of something that has `room` bytes -/
  | read (offset count room : Nat)
  /-- `count` bytes into a buffer of `room` bytes -/
  | copy (count room : Nat)
  | shift (count : Int) (width : Nat)
  deriving DecidableEq, Repr

/-- Accesses inside of what is accessed, and shifts that are defined. -/
def Access.Legal : Access → Prop
  | read offset count room => count = 0 ∨ offset + count ≤ room
  | copy count room => count ≤ room
  | shift count width => 0 ≤ count ∧ count < width

instance : DecidablePred Access.Legal
  | .read _ _ _ => inferInstanceAs (Decidable (_ ∨ _))
  | .copy _ _ => inferInstanceAs (Decidable (_ ≤ _))
  | .shift _ _ => inferInstanceAs (Decidable (_ ∧ _))

/-- What the target makes of shifts that the language does not define. -/
structure Target where
  shiftLeft : Nat → Int → UInt32
  shiftRight : Nat → Int → UInt32

/-- `p[i]` for a pointer into something that has `room` bytes from `p` on. -/
def readByte (p : List UInt8) (i room : Nat) : Logged Access UInt8 :=
  .access (.read i 1 room) p[i]?

/-- `n` bytes at `p + i`. -/
def readBytes (p : List UInt8) (i n room : Nat) : Logged Access (List UInt8) :=
  .access (.read i n room) (if i + n ≤ p.length then some ((p.drop i).take n) else none)

/-- The destination of a `memcpy`. -/
def copyInto (n room : Nat) : Logged Access Unit :=
  .access (.copy n room) (if n ≤ room then some () else none)

/-- `v << n` on 32 bits -/
def shiftLeft (t : Target) (v : Nat) (n : Int) : Logged Access Nat :=
  .access (.shift n 32)
    (some (if 0 ≤ n ∧ n < 32 then v * 2 ^ n.toNat % 2 ^ 32 else (t.shiftLeft v n).toNat))

/-- `v >> n` on 32 bits -/
def shiftRight (t : Target) (v : Nat) (n : Int) : Logged Access Nat :=
  .access (.shift n 32)
    (some (if 0 ≤ n ∧ n < 32 then v / 2 ^ n.toNat else (t.shiftRight v n).toNat))

/-! ## Data -/

/-- `RETURN_STATUS` -/
inductive ReturnStatus where
  | success | failure
  deriving DecidableEq, Repr

/-- `MAPT_OPTION_S46_RULE`, `MAPT_OPTION_S46_DMR` and `MAPT_OPTION_S46_PORT_PARAMS` -/
abbrev optionRule : Nat := 89
abbrev optionDmr : Nat := 91
abbrev optionPortParams : Nat := 93

/-- `COSA_DML_MAPT_DATA`, less the members that nothing reads. -/
structure MaptData where
  bFMR : Bool := false
  eaLen : Nat := 0
  ruleIPv4PrefixLen : Nat := 0
  ruleIPv4Prefix : String := ""
  ruleIPv6PrefixLen : Nat := 0
  ruleIPv6PrefixH : List UInt8 := .replicate 24 0
  ruleIPv6Prefix : String := ""
  ratio : Nat := 0
  psidOffset : Nat := 0
  psidLen : Nat := 0
  psid : Nat := 0
  brIPv6PrefixLen : Nat := 0
  brIPv6Prefix : String := ""
  pdIPv6Prefix : String := ""
  pdIPv6PrefixLen : Nat := 0
  deriving DecidableEq, Repr

/-! ## The rule -/

/-- The fixed fields of a rule and its IPv6 prefix. -/
structure RuleFields where
  flags : UInt8
  eaLen : UInt8
  prefix4Len : UInt8
  prefix4 : List UInt8
  prefix6Len : UInt8
  prefix6 : List UInt8
  deriving DecidableEq, Repr

/-- The bytes that hold a prefix of `len` bits: `v6ByteLen + (v6BitLen ? 1 : 0)`. -/
def prefixBytes (len : Nat) : Nat := len / 8 + if len % 8 ≠ 0 then 1 else 0

/-- The copy of the prefix in `v6Addr`, with the bits behind it cleared. -/
def maskPrefix (t : Target) (len : Nat) (bytes : List UInt8) : Logged Access (List UInt8) := do
  if len % 8 ≠ 0 then
    let mask ← shiftLeft t 0xFF (8 - (len % 8 : Nat))
    return bytes.modify (len / 8) (· &&& .ofNat mask)
  else return bytes

/-- The fields of an option of `optLen` bytes, up to the prefix. -/
def readRule (t : Target) (cur : List UInt8) (optLen : Nat) : Logged Access RuleFields := do
  let flags ← readByte cur 0 optLen
  let eaLen ← readByte cur 1 optLen
  let prefix4Len ← readByte cur 2 optLen
  let prefix4 ← readBytes cur 3 4 optLen
  let prefix6Len ← readByte cur 7 optLen
  let n := prefixBytes prefix6Len.toNat
  let bytes ← readBytes cur 8 n optLen
  copyInto n 24
  let prefix6 ← maskPrefix t prefix6Len.toNat bytes
  return { flags, eaLen, prefix4Len, prefix4, prefix6Len, prefix6 }

/-- The fields in `g_stMaptData`; `inetNtop` is `inet_ntop` for 16 bytes. -/
def storeRule (inetNtop : List UInt8 → String) (r : RuleFields) (d : MaptData) : MaptData :=
  -- the bytes behind the prefix stay what they were
  let h := r.prefix6 ++ d.ruleIPv6PrefixH.drop r.prefix6.length
  { d with
    bFMR := r.flags &&& 0x01 ≠ 0
    eaLen := r.eaLen.toNat
    ruleIPv4PrefixLen := r.prefix4Len.toNat
    ruleIPv4Prefix := dotted (r.prefix4.map (·.toNat.repr))
    ruleIPv6PrefixLen := r.prefix6Len.toNat
    ruleIPv6PrefixH := h
    ruleIPv6Prefix := inetNtop (h.take 16) }

/-- `bytesLeftOut`, a `UINT8` -/
def bytesLeftOut (optLen prefix6Len : Nat) : Nat :=
  (((optLen : Int) - 8 - prefixBytes prefix6Len) % 256).toNat

/-- `g_stMaptData.Ratio` once the length of the PSID is given: it stays when there are EA bits. -/
def psidRatio (t : Target) (psidLen : Nat) (d : MaptData) : Logged Access Nat :=
  if d.eaLen = 0 then shiftLeft t 1 psidLen else pure d.ratio

/-- The port parameters in `g_stMaptData`; `Psid` is a `UINT16`. -/
def storePortParams (psidOffset psidLen : UInt8) (ratio psid : Nat) (d : MaptData) : MaptData :=
  { d with
    psidOffset := if psidOffset ≠ 0 then psidOffset.toNat else 6
    psidLen := psidLen.toNat
    ratio
    psid := psid % 65536 }

/-- The values of the port parameters at `offset`. -/
def readPortParams (t : Target) (cur : List UInt8) (offset optLen : Nat) (d : MaptData) :
    Logged Access MaptData := do
  let psidOffset ← readByte cur (offset + 4) optLen
  let psidLen ← readByte cur (offset + 5) optLen
  let ratio ← psidRatio t psidLen.toNat d
  let bytes ← readBytes cur (offset + 6) 2 optLen
  let psid ← shiftRight t (ntohs (bytes.getD 0 0) (bytes.getD 1 0)) (16 - (psidLen.toNat : Int))
  return storePortParams psidOffset psidLen ratio psid d

/-- The port parameters at `offset`, when they are an option of the right type and length. -/
def parsePortParams (t : Target) (cur : List UInt8) (offset optLen : Nat) (d : MaptData) :
    Logged Access MaptData := do
  let header ← readBytes cur offset 4 optLen
  let uiSubOption := ntohs (header.getD 0 0) (header.getD 1 0)
  let uiSubOptionLen := ntohs (header.getD 2 0) (header.getD 3 0)
  if uiSubOption = optionPortParams ∧ uiSubOptionLen = 4 then readPortParams t cur offset optLen d
  else return d

/-- `Ratio`, and the default of `PsidOffset`. -/
def storeRatio (ratio : Nat) (d : MaptData) : MaptData := { d with ratio, psidOffset := 6 }

/-- The case `MAPT_OPTION_S46_RULE`. -/
def parseRule (inetNtop : List UInt8 → String) (t : Target) (cur : List UInt8) (optLen : Nat)
    (d : MaptData) : Logged Access MaptData := do
  let r ← readRule t cur optLen
  let ratio ← shiftLeft t 1 (r.eaLen.toNat - (32 - (r.prefix4Len.toNat : Int)))
  let d := storeRatio ratio (storeRule inetNtop r d)
  if bytesLeftOut optLen r.prefix6Len.toNat = 8 then
    parsePortParams t cur (8 + prefixBytes r.prefix6Len.toNat) optLen d
  else return d

/-! ## The container -/

/-- The case `MAPT_OPTION_S46_DMR`; the prefix is copied to the 24 bytes of `ipv6Addr`. -/
def parseDmr (inetNtop : List UInt8 → String) (cur : List UInt8) (optLen : Nat) (d : MaptData) :
    Logged Access MaptData := do
  let len ← readByte cur 0 optLen
  let bytes ← readBytes cur 1 (len.toNat / 8) optLen
  copyInto (len.toNat / 8) 24
  return { d with
    brIPv6PrefixLen := len.toNat
    brIPv6Prefix := inetNtop ((bytes ++ .replicate 24 0).take 16) }

/-- What an option does to `g_stMaptData`. -/
def parseOption (inetNtop : List UInt8 → String) (t : Target) (o : Found) (d : MaptData) :
    Logged Access MaptData :=
  if o.type = optionRule then parseRule inetNtop t o.cur o.len d
  else if o.type = optionDmr then parseDmr inetNtop o.cur o.len d
  else return d

/-- The loop over the options; `left` is `pEndBuf - pStartBuf`. -/
def parseLoop (inetNtop : List UInt8 → String) (t : Target) (left : Nat) (pStartBuf : List UInt8)
    (d : MaptData) : Logged Access (ReturnStatus × MaptData) :=
  if h : 4 ≤ left then do
    let header ← readBytes pStartBuf 0 4 left
    let uiOption := ntohs (header.getD 0 0) (header.getD 1 0)
    let uiOptionLen := ntohs (header.getD 2 0) (header.getD 3 0)
    let pCurOption := pStartBuf.drop 4
    if left < 4 + uiOptionLen then return (.failure, d)
    else
      let d ← parseOption inetNtop t ⟨uiOption, uiOptionLen, pCurOption⟩ d
      parseLoop inetNtop t (left - (4 + uiOptionLen)) (pCurOption.drop uiOptionLen) d
  else return (.success, d)
termination_by left
decreasing_by omega

/-- `CosaDmlMaptParseResponse` -/
def parseResponse (inetNtop : List UInt8 → String) (t : Target) (pOptionBuf : List UInt8)
    (uiOptionBufLen : Nat) (d : MaptData) : Logged Access (ReturnStatus × MaptData) := do
  let second ← readByte pOptionBuf 1 pOptionBuf.length
  if second = 0 then return (.failure, d)
  else
    let r ← parseLoop inetNtop t uiOptionBufLen pOptionBuf d
    if r.2.ruleIPv6PrefixLen = 0 ∨ r.2.brIPv6PrefixLen = 0 then return (.failure, r.2)
    else return r

/-! ## The option as a text -/

/-- `STRING_TO_HEX` -/
def stringToHex (c : UInt8) : Int :=
  if (c.toNat : Int) - 'a'.toNat < 0 then
    if (c.toNat : Int) - 'A'.toNat < 0 then c.toNat - '0'.toNat else c.toNat - 'A'.toNat + 10
  else c.toNat - 'a'.toNat + 10

def hexByte (hi lo : UInt8) : UInt8 :=
  .ofNat ((BitVec.ofInt 32 (stringToHex hi) <<< 4) ||| BitVec.ofInt 32 (stringToHex lo)).toNat

/-- The bytes of a text, as long as two characters are left. A colon in front of two of them is
passed over; it is not looked at whether both are there then. -/
def hexStream : List UInt8 → Option (List UInt8)
  | c₁ :: c₂ :: rest =>
    if c₁ = 0 ∨ c₂ = 0 then some []
    else if c₁ = 58 then
      match rest with
      | c₃ :: rest => (hexStream rest).map (hexByte c₂ c₃ :: ·)
      | [] => none
    else (hexStream rest).map (hexByte c₁ c₂ :: ·)
  | [0] => some []
  | _ => none

/-- `strlen` -/
def strlen (p : List UInt8) : Nat := (p.takeWhile (· ≠ 0)).length

/-- Where the text starts: a quote in front of it is passed over. -/
def textStart (buf : List UInt8) : Nat := if buf.head? = some 39 then 1 else 0

/-- The buffer without the quote that is the last of the `n` characters before a NUL. -/
def cutQuote (n : Nat) (buf : List UInt8) : List UInt8 :=
  if buf[n - 1]? = some 39 then buf.set (n - 1) 0 else buf

/-- `CosaDmlMaptConvertStringToHexStream`: the bytes take the place of the text, with a NUL
behind them, and are counted in a `UINT16`. -/
def convertStringToHexStream (buf : List UInt8) : Option (List UInt8 × Nat) :=
  let n := textStart buf + strlen (buf.drop (textStart buf))
  if n = 0 then none
  else (hexStream ((cutQuote n buf).drop (textStart buf))).map fun bytes =>
    (bytes ++ 0 :: (cutQuote n buf).drop (bytes.length + 1), bytes.length % 65536)

/-! ## The response -/

/-- The functions of the library for addresses: `inet_ntop` and `inet_pton` for IPv6, and for
IPv4 what `inet_pton` leaves, in host order. -/
structure Inet where
  ntop : List UInt8 → String
  pton : String → Option (List UInt8)
  length_pton : ∀ s, ∀ a ∈ pton s, a.length = 16
  pton4 : String → UInt32

/-- `CosaDmlMaptValidate` -/
def maptValidate (inet : Inet) (pPdIPv6Prefix : String) (pdPrefixLen v6PrefixLen : Nat)
    (d : MaptData) : ReturnStatus :=
  -- `ui8EaLen`
  if (((pdPrefixLen : Int) - v6PrefixLen) % 256).toNat ≠ d.eaLen then .failure
  else if pdPrefixLen < v6PrefixLen then .failure
  else if (inet.pton pPdIPv6Prefix).isNone then .failure
  else .success

/-- The MAP-T members of `ipc_dhcpv6_data_t`. -/
structure MaptParams where
  v6Len : Nat
  isFMR : Bool
  eaLen : Nat
  v4Len : Nat
  psidOffset : Nat
  psidLen : Nat
  psid : Nat
  iapdPrefixLen : Nat
  ratio : Nat
  pdIPv6Prefix : String
  ruleIPv4Prefix : String
  ruleIPv6Prefix : String
  brIPv6Prefix : String
  deriving DecidableEq, Repr

/-- What `snprintf` leaves in 40 bytes. -/
def snprintf40 (s : String) : String := if s.length < 40 then s else .ofList (s.toList.take 39)

def fillParams (d : MaptData) : MaptParams where
  v6Len := d.ruleIPv6PrefixLen
  isFMR := d.bFMR
  eaLen := d.eaLen
  v4Len := d.ruleIPv4PrefixLen
  psidOffset := d.psidOffset
  psidLen := d.psidLen
  psid := d.psid
  iapdPrefixLen := d.pdIPv6PrefixLen
  ratio := d.ratio
  pdIPv6Prefix := snprintf40 d.pdIPv6Prefix
  ruleIPv4Prefix := snprintf40 d.ruleIPv4Prefix
  ruleIPv6Prefix := snprintf40 (d.ruleIPv6Prefix ++ "/" ++ d.ruleIPv6PrefixLen.repr)
  brIPv6Prefix := snprintf40 (d.brIPv6Prefix ++ "/" ++ d.brIPv6PrefixLen.repr)

/-- The delegated prefix before its length, and `PdIPv6PrefixLen`, a `UINT16`. There is a slash
in it, and `PdIPv6Prefix` has 40 bytes. -/
def splitPrefix (pPdIPv6Prefix : List Char) : Option (String × Nat) :=
  let address := pPdIPv6Prefix.takeWhile (· ≠ '/')
  match pPdIPv6Prefix.dropWhile (· ≠ '/') with
  | [] => none
  | _ :: len =>
    if address.length < 40 then
      some (.ofList address, ((scanInt len).map (·.1.toNat % 65536)).getD 0)
    else none

/-- `WanMgr_MaptParseOpt95Response`, with the parameters it hands on if it succeeds. -/
def maptParseOpt95Response (inet : Inet) (t : Target) (pPdIPv6Prefix : List Char)
    (pOptionBuf : List UInt8) : Logged Access (Option MaptParams) := do
  let (buf, uiOptionBufLen) ← Logged.known (convertStringToHexStream pOptionBuf)
  let (pdIPv6Prefix, pdIPv6PrefixLen) ← Logged.known (splitPrefix pPdIPv6Prefix)
  if pdIPv6Prefix = "" then return none
  else
    let r ← parseResponse inet.ntop t buf uiOptionBufLen { pdIPv6Prefix, pdIPv6PrefixLen }
    if r.1 = .failure then return none
    else if maptValidate inet pdIPv6Prefix pdIPv6PrefixLen r.2.ruleIPv6PrefixLen r.2 = .failure then
      return none
    else return some (fillParams r.2)

/-! ## Accesses that go well -/

theorem clean_readByte {p : List UInt8} {i room : Nat} (h : room ≤ p.length) :
    (readByte p i room).Clean Access.Legal ↔ i < room := by
  rw [readByte, Logged.clean_access]
  simp only [Access.Legal, Option.isSome_iff_ne_none, ne_eq, List.getElem?_eq_none_iff]
  omega

theorem clean_readBytes {p : List UInt8} {i n room : Nat} (h : room ≤ p.length) (hi : i ≤ room) :
    (readBytes p i n room).Clean Access.Legal ↔ i + n ≤ room := by
  rw [readBytes, Logged.clean_access]
  simp only [Access.Legal]
  split <;> simp <;> omega

theorem clean_copyInto {n room : Nat} : (copyInto n room).Clean Access.Legal ↔ n ≤ room := by
  rw [copyInto, Logged.clean_access]
  simp only [Access.Legal]
  split <;> simp_all

theorem clean_shiftLeft {t : Target} {v : Nat} {n : Int} :
    (shiftLeft t v n).Clean Access.Legal ↔ 0 ≤ n ∧ n < 32 := by
  rw [shiftLeft, Logged.clean_access]
  simp [Access.Legal]

theorem clean_shiftRight {t : Target} {v : Nat} {n : Int} :
    (shiftRight t v n).Clean Access.Legal ↔ 0 ≤ n ∧ n < 32 := by
  rw [shiftRight, Logged.clean_access]
  simp [Access.Legal]

@[simp] theorem value_readByte (p : List UInt8) (i room : Nat) :
    (readByte p i room).value = p[i]? := rfl

@[simp] theorem value_readBytes (p : List UInt8) (i n room : Nat) :
    (readBytes p i n room).value = if i + n ≤ p.length then some ((p.drop i).take n) else none := rfl

@[simp] theorem value_copyInto (n room : Nat) :
    (copyInto n room).value = if n ≤ room then some () else none := rfl

/-- A prefix whose last byte keeps the bits that belong to it. -/
def masked (len : Nat) (bytes : List UInt8) : List UInt8 :=
  if len % 8 ≠ 0 then bytes.modify (len / 8) (· &&& .ofNat (0xFF * 2 ^ (8 - len % 8))) else bytes

@[simp] theorem length_masked (len : Nat) (bytes : List UInt8) :
    (masked len bytes).length = bytes.length := by
  unfold masked
  split <;> simp

@[simp] theorem value_maskPrefix (t : Target) (len : Nat) (bytes : List UInt8) :
    (maskPrefix t len bytes).value = some (masked len bytes) := by
  by_cases h : len % 8 = 0
  · simp [maskPrefix, masked, h]
  · have hr : (0 : Int) ≤ 8 - (len % 8 : Nat) ∧ (8 : Int) - (len % 8 : Nat) < 32 := by omega
    have hn : ((8 : Int) - (len % 8 : Nat)).toNat = 8 - len % 8 := by omega
    have hlt : 0xFF * 2 ^ (8 - len % 8) < 2 ^ 32 := by
      have : 2 ^ (8 - len % 8) ≤ 2 ^ 8 := Nat.pow_le_pow_right (by decide) (by omega)
      omega
    simp only [maskPrefix, masked, shiftLeft, Logged.value_bind, Logged.value_access, hr, hn, h,
      not_false_eq_true, if_true, Option.bind_some, Logged.value_pure, Nat.mod_eq_of_lt hlt,
      ne_eq, and_self]

theorem clean_maskPrefix (t : Target) (len : Nat) (bytes : List UInt8) :
    (maskPrefix t len bytes).Clean Access.Legal := by
  unfold maskPrefix
  split
  · rw [Logged.clean_bind, clean_shiftLeft]
    exact ⟨by omega, fun _ _ => Logged.clean_pure _⟩
  · exact Logged.clean_pure _

/-- The value of a byte. -/
def byteAt (p : List UInt8) (i : Nat) : Nat := (p.getD i 0).toNat

theorem getElem?_eq_getD {p : List UInt8} {i : Nat} (h : i < p.length) :
    p[i]? = some (p.getD i 0) := by
  simp [List.getD, List.getElem?_eq_getElem h]

/-- The rule that starts at a byte. -/
def ruleAt (cur : List UInt8) : RuleFields where
  flags := cur.getD 0 0
  eaLen := cur.getD 1 0
  prefix4Len := cur.getD 2 0
  prefix4 := (cur.drop 3).take 4
  prefix6Len := cur.getD 7 0
  prefix6 := masked (byteAt cur 7) ((cur.drop 8).take (prefixBytes (byteAt cur 7)))

/-- The rule is there, and its prefix fits into `v6Addr`. -/
def Holds (cur : List UInt8) (optLen : Nat) : Prop :=
  8 ≤ optLen ∧ 8 + prefixBytes (byteAt cur 7) ≤ optLen ∧ prefixBytes (byteAt cur 7) ≤ 24

instance (cur : List UInt8) (optLen : Nat) : Decidable (Holds cur optLen) :=
  inferInstanceAs (Decidable (_ ∧ _))

theorem value_readRule {t : Target} {cur : List UInt8} {optLen : Nat} (h8 : 8 ≤ cur.length)
    (hn : 8 + prefixBytes (byteAt cur 7) ≤ cur.length) (h24 : prefixBytes (byteAt cur 7) ≤ 24) :
    (readRule t cur optLen).value = some (ruleAt cur) := by
  have hget (i : Nat) (hi : i < 8) : cur[i]? = some (cur.getD i 0) := getElem?_eq_getD (by omega)
  have h4 : 3 + 4 ≤ cur.length := by omega
  simp only [readRule, Logged.value_bind, value_readByte, value_readBytes, value_copyInto,
    value_maskPrefix, hget 0 (by decide), hget 1 (by decide), hget 2 (by decide),
    hget 7 (by decide), h4, Option.bind_some, if_true, Logged.value_pure]
  unfold byteAt at hn h24
  simp only [hn, h24, Option.bind_some, if_true]
  rfl

theorem clean_readRule {t : Target} {cur : List UInt8} {optLen : Nat} (h : optLen ≤ cur.length) :
    (readRule t cur optLen).Clean Access.Legal ↔ Holds cur optLen := by
  unfold readRule Holds
  by_cases h8 : 8 ≤ optLen
  · have hbyte (i : Nat) (hi : i < 8) : (readByte cur i optLen).Clean Access.Legal :=
      (clean_readByte h).mpr (by omega)
    have hget (i : Nat) (hi : i < 8) : (readByte cur i optLen).value = some (cur.getD i 0) :=
      getElem?_eq_getD (by omega)
    have hprefix4 : (readBytes cur 3 4 optLen).Clean Access.Legal :=
      (clean_readBytes h (by omega)).mpr (by omega)
    have hvalue4 : (readBytes cur 3 4 optLen).value = some ((cur.drop 3).take 4) := by
      rw [value_readBytes, if_pos (by omega)]
    rw [Logged.clean_bind_of (hbyte 0 (by decide)) (hget 0 (by decide)),
      Logged.clean_bind_of (hbyte 1 (by decide)) (hget 1 (by decide)),
      Logged.clean_bind_of (hbyte 2 (by decide)) (hget 2 (by decide)),
      Logged.clean_bind_of hprefix4 hvalue4,
      Logged.clean_bind_of (hbyte 7 (by decide)) (hget 7 (by decide)),
      Logged.clean_bind, clean_readBytes h h8]
    simp only [Logged.clean_bind, clean_copyInto, clean_maskPrefix, Logged.clean_pure, byteAt, h8,
      true_and, implies_true, and_true]
    refine and_congr_right fun hn => ?_
    rw [value_readBytes, if_pos (by omega)]
    simp
  · have hno : ¬ (readByte cur 7 optLen).Clean Access.Legal := by
      rw [clean_readByte h]
      omega
    constructor
    · intro hc
      obtain ⟨a, -, hc⟩ := hc.rest
      obtain ⟨a, -, hc⟩ := hc.rest
      obtain ⟨a, -, hc⟩ := hc.rest
      obtain ⟨a, -, hc⟩ := hc.rest
      exact absurd (Logged.clean_bind.mp hc).1 hno
    · intro hc
      exact absurd hc.1 h8

/-! ## The loop as a walk -/

/-- The options that a walk comes upon, one after another. -/
def parseOptions (inetNtop : List UInt8 → String) (t : Target) (os : List Found) (d : MaptData) :
    Logged Access MaptData :=
  os.foldlM (fun d o => parseOption inetNtop t o d) d

@[simp] theorem parseOptions_nil (inetNtop : List UInt8 → String) (t : Target) (d : MaptData) :
    parseOptions inetNtop t [] d = pure d := rfl

@[simp] theorem parseOptions_cons (inetNtop : List UInt8 → String) (t : Target) (o : Found)
    (os : List Found) (d : MaptData) :
    parseOptions inetNtop t (o :: os) d =
      parseOption inetNtop t o d >>= parseOptions inetNtop t os := rfl

/-- The status after the loop. -/
def endingStatus : Ending → ReturnStatus
  | .done => .success
  | .overrun => .failure

/-- The loop does what the walk comes upon, as to its result and as to its accesses. -/
theorem parseLoop_walk (inetNtop : List UInt8 → String) (t : Target) (left : Nat)
    (rest : List UInt8) (d : MaptData) (h : left ≤ rest.length) :
    (parseLoop inetNtop t left rest d).value =
        (parseOptions inetNtop t (walk left rest).1 d).value.map
          (fun d => (endingStatus (walk left rest).2, d)) ∧
      ((parseLoop inetNtop t left rest d).Clean Access.Legal ↔
        (parseOptions inetNtop t (walk left rest).1 d).Clean Access.Legal) := by
  induction left using Nat.strongRecOn generalizing rest d with
  | ind left ih =>
    by_cases h4 : 4 ≤ left
    · obtain ⟨t₁, t₀, l₁, l₀, cur, rfl⟩ : ∃ t₁ t₀ l₁ l₀ cur, rest = t₁ :: t₀ :: l₁ :: l₀ :: cur := by
        match rest, h with
        | t₁ :: t₀ :: l₁ :: l₀ :: cur, _ => exact ⟨t₁, t₀, l₁, l₀, cur, rfl⟩
        | [], h | [_], h | [_, _], h | [_, _, _], h => simp at h; omega
      have hclean : (readBytes (t₁ :: t₀ :: l₁ :: l₀ :: cur) 0 4 left).Clean Access.Legal :=
        (clean_readBytes h (Nat.zero_le _)).mpr (by omega)
      have hvalue : (readBytes (t₁ :: t₀ :: l₁ :: l₀ :: cur) 0 4 left).value =
          some [t₁, t₀, l₁, l₀] := by simp
      rw [parseLoop, dif_pos h4, Logged.clean_bind_of hclean hvalue, Logged.value_bind, hvalue]
      simp only [Option.bind_some, List.getD_cons_zero, List.getD_cons_succ, List.drop_succ_cons,
        List.drop_zero]
      by_cases hlen : 4 + ntohs l₁ l₀ ≤ left
      · rw [if_neg (by omega), walk_cons hlen]
        simp only [parseOptions_cons, Logged.value_bind, Logged.clean_bind]
        have hrest : left - (4 + ntohs l₁ l₀) ≤ (cur.drop (ntohs l₁ l₀)).length := by
          simp only [List.length_cons, List.length_drop] at h ⊢
          omega
        have hlt : left - (4 + ntohs l₁ l₀) < left := by omega
        constructor
        · cases (parseOption inetNtop t ⟨ntohs t₁ t₀, ntohs l₁ l₀, cur⟩ d).value with
          | none => rfl
          | some d' => exact (ih _ hlt _ d' hrest).1
        · exact and_congr_right fun _ => forall₂_congr fun d' _ => (ih _ hlt _ d' hrest).2
      · rw [if_pos (by omega), walk_overrun h4 (by omega)]
        exact ⟨rfl, by simp⟩
    · rw [parseLoop, dif_neg h4, walk_of_lt (by omega)]
      exact ⟨rfl, by simp⟩

end Mapt

end WanManager
