import Mathlib.Tactic.IntervalCases
import WanManager.MaptOption
import WanManager.Wire.Bits

/-! # The MAP-T configuration

How `wanmgr_net_utils.c` takes the IPv4 suffix and the PSID out of the delegated prefix. The EA
bits are loaded into an `unsigned long` of 64 bits, and taken out of the lower 32. -/

namespace WanManager
open Wire

namespace Mapt

/-! ## The code -/

/-- A byte that is promoted to an `int`, or converted to an `unsigned long`. -/
def int (b : UInt8) : BitVec 32 := .ofNat 32 b.toNat

def ulong (b : UInt8) : BitVec 64 := .ofNat 64 b.toNat

/-- The conversion of an `int` to an `unsigned long`. -/
def toUlong (x : BitVec 32) : BitVec 64 := x.signExtend 64

/-- The bytes that are loaded for a number of EA bits, `tempShift / 8`. -/
def eaByteCount (EAlen : Int) : Nat :=
  if EAlen ≤ 8 then 1
  else if EAlen ≤ 16 then 2
  else if EAlen ≤ 24 then 3
  else if EAlen ≤ 32 then 4
  else if EAlen ≤ 40 then 5
  else if EAlen ≤ 48 then 6
  else 0

/-- `EAbytes`, one expression for each number of bytes. -/
def eaBytes : List UInt8 → BitVec 64
  | [b₀] => ulong b₀
  | [b₀, b₁] => toUlong (int b₀ <<< 8 ||| int b₁)
  | [b₀, b₁, b₂] => toUlong (int b₀ <<< 16 ||| int b₁ <<< 8 ||| int b₂)
  | [b₀, b₁, b₂, b₃] => toUlong (int b₀ <<< 24 ||| int b₁ <<< 16 ||| int b₂ <<< 8 ||| int b₃)
  | [b₀, b₁, b₂, b₃, b₄] =>
    ulong b₀ <<< 32 ||| ulong b₁ <<< 24 ||| toUlong (int b₂ <<< 16) ||| toUlong (int b₃ <<< 8) |||
      toUlong (int b₄)
  | [b₀, b₁, b₂, b₃, b₄, b₅] =>
    ulong b₀ <<< 40 ||| ulong b₁ <<< 32 ||| toUlong (int b₂ <<< 24) ||| toUlong (int b₃ <<< 16) |||
      toUlong (int b₄ <<< 8) ||| toUlong (int b₅)
  | _ => 0

/-- The bytes from `start` on in `s6_addr`. -/
def loadBytes (s6Addr : List UInt8) (start n : Nat) : Logged Access (BitVec 64) :=
  if n = 0 then return 0
  else do
    let bytes ← readBytes s6Addr start n 16
    return eaBytes bytes

/-- One more byte, when the EA bits do not start with a byte. -/
def loadLast (s6Addr : List UInt8) (i shift : Nat) (w : BitVec 64) : Logged Access (BitVec 64) :=
  if shift ≠ 0 then do
    let b ← readByte s6Addr i 16
    return w <<< 8 ||| ulong b
  else return w

/-- `WanManager_GetMAPTbits` -/
def getMAPTbits (t : Target) (value : Nat) (pos num : Int) : Logged Access Nat := do
  let bits ← shiftRight t value (pos + 1 - num)
  let mask ← shiftLeft t 0xFFFFFFFF num
  -- `& ~mask` on 32 bits
  return bits &&& (0xFFFFFFFF - mask)

/-- What `WanManager_CalculatePsidAndV4Index` stores. -/
structure PsidAndV4Index where
  psidValue : Int
  ipv4IndexValue : Int
  psidLen : Int
  deriving DecidableEq, Repr

/-- `EAStartPos` -/
def eaStartPos (n shift : Nat) : Int := 8 * (n : Int) - shift - 1 + if shift ≠ 0 then 8 else 0

/-- `WanManager_CalculatePsidAndV4Index`; it is an error where there is no result. -/
def calculatePsidAndV4Index (inet : Inet) (t : Target) (pdIPv6Prefix : String)
    (v6PrefixLen iapdPrefixLen v4PrefixLen : Nat) : Logged Access (Option PsidAndV4Index) :=
  let ipv4BitIndexLen : Int := 32 - v4PrefixLen
  let EAlen : Int := iapdPrefixLen - v6PrefixLen
  let psidBitIndexLen := EAlen - ipv4BitIndexLen
  if iapdPrefixLen ≤ v6PrefixLen then return none
  else
    match inet.pton pdIPv6Prefix with
    | none => return none
    | some s6Addr => do
      let start := v6PrefixLen / 8
      let shift := v6PrefixLen % 8
      let n := eaByteCount EAlen
      let w ← loadBytes s6Addr start n
      let w ← loadLast s6Addr (start + n) shift w
      -- the parameter is an `unsigned`
      let value := w.toNat % 2 ^ 32
      let index ← getMAPTbits t value (eaStartPos n shift) ipv4BitIndexLen
      let psid ← getMAPTbits t value (eaStartPos n shift - ipv4BitIndexLen) psidBitIndexLen
      return some
        { psidValue := (BitVec.ofNat 32 psid).toInt
          ipv4IndexValue := (BitVec.ofNat 32 index).toInt
          psidLen := psidBitIndexLen }

/-- `%02x` of a byte -/
def hexPair (b : UInt8) : String :=
  .ofList [Nat.digitChar (b.toNat / 16), Nat.digitChar (b.toNat % 16)]

/-- The bytes of an address, the first one first. -/
def addressBytes (a : UInt32) : List UInt8 :=
  [.ofNat (a.toNat / 2 ^ 24), .ofNat (a.toNat / 2 ^ 16), .ofNat (a.toNat / 2 ^ 8), .ofNat a.toNat]

def addressText (a : UInt32) : String := Text.dotted ((addressBytes a).map (·.toNat.repr))

/-- `WanManager_ConfigureIpv6Sysevents`, with the `ipv6AddressString` that it makes. -/
def configureIpv6Sysevents (inet : Inet) (pdIPv6Prefix ipAddressString : String) (psidValue : Int) :
    Option String :=
  (inet.pton pdIPv6Prefix).map fun s6Addr =>
    let psid := (BitVec.ofInt 32 psidValue).toNat
    let bytes := s6Addr.take 8 ++ [0, 0] ++ addressBytes (inet.pton4 ipAddressString) ++
      [.ofNat (psid / 2 ^ 8), .ofNat psid]
    ":".intercalate ((List.range 8).map fun i =>
      hexPair (bytes.getD (2 * i) 0) ++ hexPair (bytes.getD (2 * i + 1) 0))

/-- `WANMGR_MAPT_CONFIG_DATA` -/
structure MaptConfigData where
  psidValue : Int
  psidLen : Int
  ipAddressString : String
  ipLANAddressString : String
  deriving DecidableEq, Repr

/-- The sharing ratio is 1 if it is 0. -/
def MaptParams.withRatio (p : MaptParams) : MaptParams :=
  { p with ratio := if p.ratio = 0 then 1 else p.ratio }

/-- The PSID that was handed on is used when there are no EA bits. -/
def psidAndV4Index (inet : Inet) (t : Target) (p : MaptParams) :
    Logged Access (Option PsidAndV4Index) :=
  if 0 < p.psidLen ∧ p.eaLen = 0 then
    return some { psidValue := p.psid, ipv4IndexValue := 0, psidLen := p.psidLen }
  else calculatePsidAndV4Index inet t p.pdIPv6Prefix p.v6Len p.iapdPrefixLen p.v4Len

/-- `WanManager_VerifyMAPTConfiguration`, with the parameters and the configuration that it
leaves if it succeeds; `lan` is the LAN address in `syscfg`. -/
def verifyMAPTConfiguration (inet : Inet) (t : Target) (lan : Option String) (p : MaptParams) :
    Logged Access (Option (MaptParams × MaptConfigData)) := do
  let r ← psidAndV4Index inet t p.withRatio
  match r, lan with
  | some r, some lan =>
    let ipValue := inet.pton4 p.ruleIPv4Prefix + .ofInt r.ipv4IndexValue
    match configureIpv6Sysevents inet p.pdIPv6Prefix (addressText ipValue) r.psidValue with
    | some _ => return some (p.withRatio,
        { psidValue := r.psidValue, psidLen := r.psidLen, ipAddressString := addressText ipValue
          ipLANAddressString := lan })
    | none => return none
  | _, _ => return none

/-! ## The bits that are loaded -/

theorem testBit_of_ge (b : UInt8) {i : Nat} (h : 8 ≤ i) : b.toNat.testBit i = false := by
  apply Nat.testBit_lt_two_pow
  have hlt := b.toNat_lt
  have hpow : 2 ^ 8 ≤ 2 ^ i := Nat.pow_le_pow_right (by decide) h
  omega

theorem getLsbD_toUlong (x : BitVec 32) {j : Nat} (hj : j < 32) :
    (toUlong x).getLsbD j = x.getLsbD j := by
  have h64 : j < 64 := by omega
  simp only [toUlong, BitVec.getLsbD_signExtend, hj, h64, if_true, decide_true, Bool.true_and]

theorem getLsbD_int_shiftLeft (b : UInt8) (s : Nat) {j : Nat} (hj : j < 32) :
    (int b <<< s).getLsbD j = (decide (s ≤ j) && b.toNat.testBit (j - s)) := by
  simp only [int, BitVec.getLsbD_shiftLeft, BitVec.getLsbD_ofNat]
  by_cases h : s ≤ j
  · simp [h, hj, Nat.not_lt.mpr h, Nat.lt_of_le_of_lt (Nat.sub_le j s) hj]
  · simp [h, Nat.lt_of_not_le h]

theorem getLsbD_int (b : UInt8) {j : Nat} (hj : j < 32) :
    (int b).getLsbD j = b.toNat.testBit j := by
  simp only [int, BitVec.getLsbD_ofNat, hj, decide_true, Bool.true_and]

theorem getLsbD_ulong_shiftLeft (b : UInt8) (s : Nat) {j : Nat} (hj : j < 32) :
    (ulong b <<< s).getLsbD j = (decide (s ≤ j) && b.toNat.testBit (j - s)) := by
  have h64 : j < 64 := by omega
  simp only [ulong, BitVec.getLsbD_shiftLeft, BitVec.getLsbD_ofNat]
  by_cases h : s ≤ j
  · simp [h, h64, Nat.not_lt.mpr h, Nat.lt_of_le_of_lt (Nat.sub_le j s) h64]
  · simp [h, Nat.lt_of_not_le h]

theorem getLsbD_ulong (b : UInt8) {j : Nat} (hj : j < 32) :
    (ulong b).getLsbD j = b.toNat.testBit j := by
  have h64 : j < 64 := by omega
  simp only [ulong, BitVec.getLsbD_ofNat, h64, decide_true, Bool.true_and]

/-- The lower 32 bits of `EAbytes` are those of its bytes: neither a sign nor a shift reaches
them. -/
theorem getLsbD_eaBytes {l : List UInt8} (hl : 1 ≤ l.length ∧ l.length ≤ 6) {j : Nat} (hj : j < 32) :
    (eaBytes l).getLsbD j = (decide (j < 8 * l.length) && bitOf l (8 * l.length - 1 - j)) := by
  match l, hl with
  | [b₀], _ | [b₀, b₁], _ | [b₀, b₁, b₂], _ | [b₀, b₁, b₂, b₃], _ | [b₀, b₁, b₂, b₃, b₄], _
  | [b₀, b₁, b₂, b₃, b₄, b₅], _ =>
    simp only [eaBytes, BitVec.getLsbD_or, getLsbD_toUlong _ hj, getLsbD_int_shiftLeft _ _ hj,
      getLsbD_int _ hj, getLsbD_ulong_shiftLeft _ _ hj, getLsbD_ulong _ hj]
    interval_cases j <;> simp [bitOf, testBit_of_ge]

theorem value_loadBytes {a : List UInt8} {start n : Nat} (h : start + n ≤ a.length) (hn : n ≠ 0) :
    (loadBytes a start n).value = some (eaBytes ((a.drop start).take n)) := by
  simp [loadBytes, hn, h]

/-- The word after the byte behind it was loaded, too. -/
def withLast (a : List UInt8) (i shift : Nat) (w : BitVec 64) : BitVec 64 :=
  if shift ≠ 0 then w <<< 8 ||| ulong (a.getD i 0) else w

theorem value_loadLast {a : List UInt8} {i shift : Nat} (h : shift ≠ 0 → i < a.length)
    (w : BitVec 64) : (loadLast a i shift w).value = some (withLast a i shift w) := by
  by_cases hs : shift = 0
  · simp [loadLast, withLast, hs]
  · rw [loadLast, if_pos hs, withLast, if_pos hs, Logged.value_bind, value_readByte,
      getElem?_eq_getD (h hs)]
    rfl

/-- The number of bytes with the one behind them. -/
def loaded (n shift : Nat) : Nat := n + if shift ≠ 0 then 1 else 0

/-- What is loaded, up to 32 bits. -/
theorem testBit_loaded {a : List UInt8} {start n shift : Nat} (hn : 1 ≤ n ∧ n ≤ 6)
    (h : start + n ≤ a.length) {j : Nat} (hj : j < 32) :
    (withLast a (start + n) shift (eaBytes ((a.drop start).take n))).getLsbD j =
      (decide (j < 8 * loaded n shift) && bitOf a (8 * (start + loaded n shift) - 1 - j)) := by
  have hlen : ((a.drop start).take n).length = n := by
    rw [List.length_take, List.length_drop]
    omega
  have hword {i : Nat} (hi : i < 32) : (eaBytes ((a.drop start).take n)).getLsbD i =
      (decide (i < 8 * n) && bitOf a (8 * (start + n) - 1 - i)) := by
    rw [getLsbD_eaBytes (by omega) hi, hlen]
    by_cases hlt : i < 8 * n
    · have hpos : 8 * (start + n) - 1 - i = 8 * start + (8 * n - 1 - i) := by omega
      rw [hpos, bitOf_take_drop (by omega)]
    · simp [hlt]
  by_cases hs : shift = 0
  · simp [withLast, loaded, hs, hword hj]
  · have h64 : j < 64 := by omega
    simp only [withLast, loaded, hs, ne_eq, not_false_eq_true, if_true, BitVec.getLsbD_or,
      BitVec.getLsbD_shiftLeft, getLsbD_ulong _ hj, h64, decide_true, Bool.true_and]
    by_cases h8 : j < 8
    · have hdiv : (8 * (start + (n + 1)) - 1 - j) / 8 = start + n := by omega
      have hmod : 7 - (8 * (start + (n + 1)) - 1 - j) % 8 = j := by omega
      have hlt : j < 8 * (n + 1) := by omega
      simp [h8, bitOf, hdiv, hmod, hlt]
    · have hpos : 8 * (start + n) - 1 - (j - 8) = 8 * (start + (n + 1)) - 1 - j := by omega
      have hlt : j - 8 < 8 * n ↔ j < 8 * (n + 1) := by omega
      simp [h8, hword (show j - 8 < 32 by omega), testBit_of_ge _ (Nat.not_lt.mp h8), hpos, hlt]

/-! ## The bits that are taken out -/

theorem not_mask {num : Nat} (h : num < 32) :
    0xFFFFFFFF - 0xFFFFFFFF * 2 ^ num % 2 ^ 32 = 2 ^ num - 1 := by
  interval_cases num <;> decide

/-- Bits that a shift by less than 32 can reach. -/
theorem value_getMAPTbits {t : Target} {v c num : Nat} {pos : Int} (hpos : pos + 1 - num = c)
    (hc : c < 32) (hnum : num < 32) :
    (getMAPTbits t v pos num).value = some (v / 2 ^ c % 2 ^ num) := by
  have hc' : (0 : Int) ≤ c ∧ (c : Int) < 32 := by omega
  have hn' : (0 : Int) ≤ num ∧ (num : Int) < 32 := by omega
  simp only [getMAPTbits, shiftRight, shiftLeft, hpos, hc', hn', and_self, if_true,
    Logged.value_bind, Logged.value_access, Option.bind_some, Int.toNat_natCast, not_mask hnum,
    Nat.and_two_pow_sub_one_eq_mod, Logged.value_pure]

/-- Bits that it cannot reach. -/
theorem value_getMAPTbits_wild {t : Target} {v num : Nat} {pos : Int} (hpos : 32 ≤ pos + 1 - num)
    (hnum : num < 32) : (getMAPTbits t v pos num).value =
      some ((t.shiftRight v (pos + 1 - num)).toNat % 2 ^ num) := by
  have hc' : ¬ ((0 : Int) ≤ pos + 1 - num ∧ pos + 1 - num < 32) := by omega
  have hn' : (0 : Int) ≤ num ∧ (num : Int) < 32 := by omega
  simp only [getMAPTbits, shiftRight, shiftLeft, hc', hn', and_self, if_true, if_false,
    Logged.value_bind, Logged.value_access, Option.bind_some, Int.toNat_natCast, not_mask hnum,
    Nat.and_two_pow_sub_one_eq_mod, Logged.value_pure]

theorem toInt_ofNat {v num : Nat} (h : v < 2 ^ num) (hnum : num < 32) :
    (BitVec.ofNat 32 v).toInt = v := by
  have hpow : 2 ^ num ≤ 2 ^ 31 := Nat.pow_le_pow_right (by decide) (by omega)
  have hv : (BitVec.ofNat 32 v).toNat = v := by
    rw [BitVec.toNat_ofNat]
    omega
  rw [BitVec.toInt_eq_toNat_of_lt (by omega), hv]

/-- The bits from the first EA bit on that are loaded. -/
def eaTop (v6PrefixLen eaLen : Nat) : Nat :=
  8 * loaded (eaByteCount eaLen) (v6PrefixLen % 8) - v6PrefixLen % 8

/-- The bytes that are loaded hold the EA bits, and no byte more. -/
theorem eaByteCount_spec {eaLen : Nat} (h : eaLen ≤ 48) (h0 : 1 ≤ eaLen) :
    eaLen ≤ 8 * eaByteCount eaLen ∧ 8 * eaByteCount eaLen < eaLen + 8 ∧
      1 ≤ eaByteCount eaLen ∧ eaByteCount eaLen ≤ 6 := by
  unfold eaByteCount
  split_ifs <;> omega

/-! ## The suffix and the PSID -/

/-- What the EA bits say. -/
def expected (a : List UInt8) (v6PrefixLen iapdPrefixLen v4PrefixLen : Nat) : PsidAndV4Index where
  psidValue := bitField a (v6PrefixLen + (32 - v4PrefixLen))
    (iapdPrefixLen - v6PrefixLen - (32 - v4PrefixLen))
  ipv4IndexValue := bitField a v6PrefixLen (32 - v4PrefixLen)
  psidLen := ((iapdPrefixLen - v6PrefixLen - (32 - v4PrefixLen) : Nat) : Int)

/-- The EA bits that 32 bits do not reach are zero and not all of the suffix. -/
def Reached (a : List UInt8) (v6PrefixLen iapdPrefixLen v4PrefixLen : Nat) : Prop :=
  let top := eaTop v6PrefixLen (iapdPrefixLen - v6PrefixLen)
  top ≤ 32 ∨ top - 32 < 32 - v4PrefixLen ∧ bitField a v6PrefixLen (top - 32) = 0

/-- The word that the bits are taken out of. -/
def loadedWord (a : List UInt8) (v6PrefixLen eaLen : Nat) : Nat :=
  (withLast a (v6PrefixLen / 8 + eaByteCount eaLen) (v6PrefixLen % 8)
    (eaBytes ((a.drop (v6PrefixLen / 8)).take (eaByteCount eaLen)))).toNat % 2 ^ 32

/-- A run of the code up to what is taken out of the loaded word. -/
theorem value_calculate {inet : Inet} {t : Target} {pd : String} {a : List UInt8}
    {v6 iapd v4 ea : Nat} (hpton : inet.pton pd = some a) (ha : a.length = 16)
    (hiapd : iapd = v6 + ea) (h1 : 1 ≤ ea) (hle : iapd ≤ 64) (h48 : ea ≤ 48) :
    (calculatePsidAndV4Index inet t pd v6 iapd v4).value =
      (getMAPTbits t (loadedWord a v6 ea) (eaStartPos (eaByteCount ea) (v6 % 8))
          (32 - v4)).value.bind fun index =>
        (getMAPTbits t (loadedWord a v6 ea) (eaStartPos (eaByteCount ea) (v6 % 8) - (32 - v4))
            (ea - (32 - v4))).value.bind fun psid =>
          some (some
            { psidValue := (BitVec.ofNat 32 psid).toInt
              ipv4IndexValue := (BitVec.ofNat 32 index).toInt
              psidLen := ea - (32 - v4) }) := by
  have hea : (iapd : Int) - v6 = ea := by omega
  obtain ⟨-, hn8, hn1, hn6⟩ := eaByteCount_spec h48 h1
  have hbytes : (loadBytes a (v6 / 8) (eaByteCount ea)).value =
      some (eaBytes ((a.drop (v6 / 8)).take (eaByteCount ea))) :=
    value_loadBytes (by omega) (by omega)
  have hlast (w : BitVec 64) : (loadLast a (v6 / 8 + eaByteCount ea) (v6 % 8) w).value =
      some (withLast a (v6 / 8 + eaByteCount ea) (v6 % 8) w) :=
    value_loadLast (fun _ => by omega) w
  have hif : ¬ iapd ≤ v6 := by omega
  unfold calculatePsidAndV4Index
  rw [if_neg hif, hpton, hea]
  generalize hw : loadedWord a v6 ea = v
  unfold loadedWord at hw
  rw [Logged.value_bind, hbytes, Option.bind_some, Logged.value_bind, hlast, Option.bind_some, hw,
    Logged.value_bind]
  simp only [Logged.value_bind, Logged.value_pure]

/-- Bits of the EA field that were loaded: those that a shift by `top - stop` and a mask of `num`
bits leave end with bit `stop` of the field. -/
theorem testBit_taken {a : List UInt8} {v6 ea stop num j : Nat} (ha : a.length = 16)
    (h64 : v6 + ea ≤ 64) (h48 : ea ≤ 48) (h1 : 1 ≤ ea) (hstop : stop ≤ eaTop v6 ea)
    (hnum : num ≤ stop) :
    (loadedWord a v6 ea / 2 ^ (eaTop v6 ea - stop) % 2 ^ num).testBit j =
      (decide (j < num) && (decide (eaTop v6 ea - stop + j < 32) && bitOf a (v6 + stop - 1 - j))) := by
  obtain ⟨-, hn8, hn1, hn6⟩ := eaByteCount_spec h48 h1
  rw [Nat.testBit_mod_two_pow, Nat.testBit_div_two_pow, loadedWord, Nat.testBit_mod_two_pow,
    ← BitVec.getLsbD]
  by_cases hj : j < num
  · by_cases h32 : eaTop v6 ea - stop + j < 32
    · have hpos : 8 * (v6 / 8 + loaded (eaByteCount ea) (v6 % 8)) - 1 - (eaTop v6 ea - stop + j) =
          v6 + stop - 1 - j := by
        unfold eaTop at hstop ⊢
        omega
      have hin : eaTop v6 ea - stop + j < 8 * loaded (eaByteCount ea) (v6 % 8) := by
        unfold eaTop at hstop ⊢
        omega
      rw [Nat.add_comm j, testBit_loaded ⟨hn1, hn6⟩ (by omega) h32, hpos]
      simp [hin]
    · rw [Nat.add_comm j]
      simp [h32]
  · simp [hj]

theorem eaTop_spec {v6 ea : Nat} (h48 : ea ≤ 48) (h1 : 1 ≤ ea) :
    ea ≤ eaTop v6 ea ∧ eaTop v6 ea < ea + 15 ∧
      eaStartPos (eaByteCount ea) (v6 % 8) + 1 = eaTop v6 ea := by
  obtain ⟨hle, hn8, hn1, hn6⟩ := eaByteCount_spec h48 h1
  unfold eaTop loaded eaStartPos
  by_cases hs : v6 % 8 = 0
  · simp only [hs, ne_eq, not_true, if_false]
    omega
  · simp only [hs, ne_eq, not_false_eq_true, if_true]
    omega

/-- The PSID that is taken out of the word is that of the field. -/
theorem taken_psid {a : List UInt8} {v6 ea s : Nat} (ha : a.length = 16) (h64 : v6 + ea ≤ 64)
    (h48 : ea ≤ 48) (h1 : 1 ≤ ea) (hs : s ≤ ea) (h32 : eaTop v6 ea - s < 32) :
    loadedWord a v6 ea / 2 ^ (eaTop v6 ea - ea) % 2 ^ (ea - s) = bitField a (v6 + s) (ea - s) := by
  obtain ⟨htop, -, -⟩ : ea ≤ eaTop v6 ea ∧ _ := eaTop_spec h48 h1
  apply Nat.eq_of_testBit_eq
  intro j
  rw [testBit_taken ha h64 h48 h1 htop (by omega), testBit_bitField]
  have hpos : v6 + s + (ea - s) - 1 - j = v6 + ea - 1 - j := by omega
  by_cases hj : j < ea - s
  · have hlt : eaTop v6 ea - ea + j < 32 := by omega
    simp [hlt, hpos]
  · simp [hj]

/-- The suffix is, if the bits that were not loaded are zero. -/
theorem taken_index_iff {a : List UInt8} {v6 ea s : Nat} (ha : a.length = 16) (h64 : v6 + ea ≤ 64)
    (h48 : ea ≤ 48) (h1 : 1 ≤ ea) (hs : s ≤ ea) (h32 : eaTop v6 ea - s < 32) :
    loadedWord a v6 ea / 2 ^ (eaTop v6 ea - s) % 2 ^ s = bitField a v6 s ↔
      eaTop v6 ea ≤ 32 ∨ eaTop v6 ea - 32 < s ∧ bitField a v6 (eaTop v6 ea - 32) = 0 := by
  obtain ⟨htop, -, -⟩ : ea ≤ eaTop v6 ea ∧ _ := eaTop_spec h48 h1
  have hbits (j : Nat) := testBit_taken (j := j) ha h64 h48 h1 (hs.trans htop) (Nat.le_refl s)
  have hboth : eaTop v6 ea ≤ 32 ∨ eaTop v6 ea - 32 < s ∧ bitField a v6 (eaTop v6 ea - 32) = 0 ↔
      ∀ i < eaTop v6 ea - 32, bitOf a (v6 + i) = false := by
    rw [bitField_eq_zero]
    constructor
    · rintro (hle | ⟨-, hzero⟩) i hi
      · omega
      · exact hzero i hi
    · intro hzero
      by_cases hle : eaTop v6 ea ≤ 32
      · exact .inl hle
      · exact .inr ⟨by omega, hzero⟩
  rw [hboth]
  constructor
  · intro heq i hi
    have hbit := congrArg (Nat.testBit · (s - 1 - i)) heq
    have hpos : v6 + s - 1 - (s - 1 - i) = v6 + i := by omega
    have hout : ¬ eaTop v6 ea - s + (s - 1 - i) < 32 := by omega
    have hin : s - 1 - i < s := by omega
    rw [hbits, testBit_bitField, hpos] at hbit
    simpa [hout, hin] using hbit.symm
  · intro hzero
    apply Nat.eq_of_testBit_eq
    intro j
    rw [hbits, testBit_bitField]
    by_cases hj : j < s
    · by_cases hin : eaTop v6 ea - s + j < 32
      · simp [hin]
      · have hpos : v6 + s - 1 - j = v6 + (s - 1 - j) := by omega
        rw [hpos, hzero (s - 1 - j) (by omega)]
        simp
    · simp [hj]

/-- The suffix and the PSID are what the EA bits say, whatever the target makes of shifts that
are not defined, exactly when 32 bits reach the EA bits that are not zero. -/
theorem calculate_exact_iff {inet : Inet} {pd : String} {a : List UInt8} {v6 iapd v4 : Nat}
    (hpton : inet.pton pd = some a) (hlt : v6 < iapd) (hle : iapd ≤ 64)
    (hv4 : 1 ≤ v4 ∧ v4 ≤ 32) (hea : 32 - v4 ≤ iapd - v6) (h48 : iapd - v6 ≤ 48)
    (hpsid : iapd - v6 - (32 - v4) ≤ 16) :
    (∀ t, (calculatePsidAndV4Index inet t pd v6 iapd v4).value =
        some (some (expected a v6 iapd v4))) ↔ Reached a v6 iapd v4 := by
  have ha := inet.length_pton pd a hpton
  obtain ⟨ea, hea'⟩ : ∃ ea, iapd - v6 = ea := ⟨_, rfl⟩
  obtain ⟨s, hs⟩ : ∃ s, 32 - v4 = s := ⟨_, rfl⟩
  have hsint : (32 : Int) - v4 = s := by omega
  have hpint : (ea : Int) - s = (ea - s : Nat) := by omega
  have h1 : 1 ≤ ea := by omega
  obtain ⟨htop, htop', hstart⟩ : ea ≤ eaTop v6 ea ∧ eaTop v6 ea < ea + 15 ∧
      eaStartPos (eaByteCount ea) (v6 % 8) + 1 = eaTop v6 ea := eaTop_spec (by omega) h1
  have hiapd : iapd = v6 + ea := by omega
  have hcalc (t : Target) := @value_calculate inet t pd a v6 iapd v4 ea hpton ha hiapd h1 hle
    (by omega)
  simp only [hsint, hpint] at hcalc
  -- the PSID ends with the field, so that a shift reaches it
  have hpsidValue (t : Target) : (getMAPTbits t (loadedWord a v6 ea)
      (eaStartPos (eaByteCount ea) (v6 % 8) - s) (ea - s : Nat)).value =
        some (loadedWord a v6 ea / 2 ^ (eaTop v6 ea - ea) % 2 ^ (ea - s)) :=
    value_getMAPTbits (c := eaTop v6 ea - ea) (by omega) (by omega) (by omega)
  have hsmall (x num : Nat) (hnum : num < 32) :
      (BitVec.ofNat 32 (x % 2 ^ num)).toInt = (x % 2 ^ num : Nat) :=
    toInt_ofNat (Nat.mod_lt _ (Nat.two_pow_pos _)) hnum
  simp only [Reached, hea', hs]
  by_cases h32 : eaTop v6 ea - s < 32
  · have hindexValue (t : Target) : (getMAPTbits t (loadedWord a v6 ea)
        (eaStartPos (eaByteCount ea) (v6 % 8)) s).value =
          some (loadedWord a v6 ea / 2 ^ (eaTop v6 ea - s) % 2 ^ s) :=
      value_getMAPTbits (c := eaTop v6 ea - s) (by omega) h32 (by omega)
    have hpsidEq := @taken_psid a v6 ea s ha (by omega) (by omega) h1 (by omega) h32
    have hindexEq := @taken_index_iff a v6 ea s ha (by omega) (by omega) h1 (by omega) h32
    rw [← hindexEq]
    simp only [hcalc, hindexValue, hpsidValue, Option.bind_some, expected, hea', hs, hpsidEq,
      hsmall _ s (by omega), toInt_ofNat (bitField_lt a (v6 + s) (ea - s)) (by omega)]
    constructor
    · intro hall
      have hrec := Option.some.inj (Option.some.inj (hall ⟨fun _ _ => 0, fun _ _ => 0⟩))
      have hidx : ((loadedWord a v6 ea / 2 ^ (eaTop v6 ea - s) % 2 ^ s : Nat) : Int) =
          (bitField a v6 s : Nat) := congrArg PsidAndV4Index.ipv4IndexValue hrec
      exact_mod_cast hidx
    · intro heq t
      rw [heq]
  · -- a target whose shift yields another last bit of the suffix
    have hno : ¬ (eaTop v6 ea ≤ 32 ∨ eaTop v6 ea - 32 < s ∧ bitField a v6 (eaTop v6 ea - 32) = 0) := by
      omega
    simp only [hno, iff_false, not_forall]
    refine ⟨⟨fun _ _ => 0, fun _ _ => if bitField a v6 s % 2 = 0 then 1 else 0⟩, fun heq => ?_⟩
    have hwild (t : Target) : (getMAPTbits t (loadedWord a v6 ea)
        (eaStartPos (eaByteCount ea) (v6 % 8)) s).value =
          some ((t.shiftRight (loadedWord a v6 ea) (eaStartPos (eaByteCount ea) (v6 % 8) + 1 - s)).toNat
            % 2 ^ s) :=
      value_getMAPTbits_wild (by omega) (by omega)
    rw [hcalc, hwild, Option.bind_some, hpsidValue, Option.bind_some] at heq
    have hidx := congrArg PsidAndV4Index.ipv4IndexValue (Option.some.inj (Option.some.inj heq))
    simp only [expected, hs, hsmall _ s (show s < 32 by omega)] at hidx
    have hidx : (if bitField a v6 s % 2 = 0 then (1 : UInt32) else 0).toNat % 2 ^ s =
        bitField a v6 s := by exact_mod_cast hidx
    have hparity := congrArg (· % 2) hidx
    have hdvd : 2 ∣ 2 ^ s := dvd_pow_self 2 (by omega)
    simp only [Nat.mod_mod_of_dvd _ hdvd] at hparity
    split at hparity
    · next heven =>
      rw [heven] at hparity
      exact absurd hparity (by decide)
    · next hodd => exact hodd hparity.symm

/-- A delegated prefix below `2001:db8::/33`, and a library that knows no other. -/
def delegated : List UInt8 := [0x20, 0x01, 0x0d, 0xb8, 0x40] ++ .replicate 11 0

def oneAddress : Inet where
  ntop := fun _ => ""
  pton := fun _ => some delegated
  length_pton := by simp [delegated]
  pton4 := fun _ => 0

theorem calculate_exact_delegated :
    (∀ t, (calculatePsidAndV4Index oneAddress t "2001:db8:4000::" 40 56 24).value =
        some (some (expected delegated 40 56 24))) ↔ Reached delegated 40 56 24 :=
  calculate_exact_iff rfl (by decide) (by decide) (by decide) (by decide) (by decide) (by decide)

/-- With a rule of 33 bits, the first of the suffix is lost. -/
theorem calculate_loses_bit :
    ¬ (calculatePsidAndV4Index oneAddress ⟨fun _ _ => 0, fun _ _ => 0⟩ "2001:db8:4000::" 33 64
      16).value = some (some (expected delegated 33 64 16)) := by
  decide +kernel

end Mapt

end WanManager
