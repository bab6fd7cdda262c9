import WanManager.MaptConfig
import WanManager.MaptSafety

/-! # The parser and the configurator of MAP-T

When what `dhcpv6c_msg_apis.c` accepts of option 95 is what `wanmgr_net_utils.c` can configure:
both derive the length of the PSID and the sharing ratio from the lengths of the rule, each in
its own way. -/

namespace WanManager
open Wire

namespace Mapt

/-! ## The lengths in a payload -/

/-- The lengths of the last rule and of the last default mapping rule; a PSID length that was
given stays when a later rule gives none. -/
structure Lengths where
  eaLen : Nat := 0
  v4Len : Nat := 0
  v6Len : Nat := 0
  psidLen : Nat := 0
  given : Bool := false
  dmrLen : Nat := 0
  deriving DecidableEq, Repr

def Lengths.next (l : Lengths) (o : Found) : Lengths :=
  if o.type = optionRule then
    { l with
      eaLen := byteAt o.cur 1
      v4Len := byteAt o.cur 2
      v6Len := byteAt o.cur 7
      psidLen := if ReadsPortParams o.cur o.len then byteAt o.cur (ruleEnd o.cur + 5) else l.psidLen
      given := ReadsPortParams o.cur o.len }
  else if o.type = optionDmr then { l with dmrLen := byteAt o.cur 0 }
  else l

def lengths (os : List Found) : Lengths := os.foldl Lengths.next {}

/-- The bits that the sharing ratio is made of: those of the PSID when it is given and there are
no EA bits, else those that the EA bits leave for it. -/
def Lengths.ratioBits (l : Lengths) : Int :=
  if l.given ∧ l.eaLen = 0 then l.psidLen else l.eaLen - (32 - (l.v4Len : Int))

/-- What a ratio of so many bits is. -/
def ratioOf (t : Target) (n : Int) : Nat :=
  if 0 ≤ n ∧ n < 32 then 2 ^ n.toNat else (t.shiftLeft 1 n).toNat

theorem value_ratio (t : Target) (n : Int) : (shiftLeft t 1 n).value = some (ratioOf t n) := by
  rw [shiftLeft, Logged.value_access, ratioOf]
  split
  · next h =>
    have hlt : 2 ^ n.toNat < 2 ^ 32 := Nat.pow_lt_pow_right (by decide) (by omega)
    rw [Nat.one_mul, Nat.mod_eq_of_lt hlt]
  · rfl

theorem psidRatio_eq (t : Target) (n : Nat) (d : MaptData) :
    (psidRatio t n d).value = some (if d.eaLen = 0 then ratioOf t n else d.ratio) := by
  unfold psidRatio
  split
  · exact value_ratio t n
  · rfl

/-! ## What the parser stores -/

/-- The parser has stored the lengths, and the ratio of a rule that has a prefix. -/
structure Follows (t : Target) (pd : String × Nat) (l : Lengths) (d : MaptData) : Prop where
  eaLen : d.eaLen = l.eaLen
  v4Len : d.ruleIPv4PrefixLen = l.v4Len
  v6Len : d.ruleIPv6PrefixLen = l.v6Len
  psidLen : d.psidLen = l.psidLen
  dmrLen : d.brIPv6PrefixLen = l.dmrLen
  ratio : l.v6Len ≠ 0 → d.ratio = ratioOf t l.ratioBits
  delegated : (d.pdIPv6Prefix, d.pdIPv6PrefixLen) = pd

theorem byteAt_of_getElem? {p : List UInt8} {i : Nat} {b : UInt8} (h : p[i]? = some b) :
    b.toNat = byteAt p i := by
  simp [byteAt, List.getD, h]

/-- The lengths of a rule that is read, wherever it ends. -/
theorem lengths_readRule {t : Target} {cur : List UInt8} {optLen : Nat} {r : RuleFields}
    (h : (readRule t cur optLen).value = some r) :
    r.eaLen.toNat = byteAt cur 1 ∧ r.prefix4Len.toNat = byteAt cur 2 ∧
      r.prefix6Len.toNat = byteAt cur 7 := by
  obtain ⟨flags, -, h⟩ := Logged.of_value_bind h
  obtain ⟨eaLen, hea, h⟩ := Logged.of_value_bind h
  obtain ⟨prefix4Len, h4, h⟩ := Logged.of_value_bind h
  obtain ⟨prefix4, -, h⟩ := Logged.of_value_bind h
  obtain ⟨prefix6Len, h6, h⟩ := Logged.of_value_bind h
  obtain ⟨bytes, -, h⟩ := Logged.of_value_bind h
  obtain ⟨-, -, h⟩ := Logged.of_value_bind h
  obtain ⟨prefix6, -, h⟩ := Logged.of_value_bind h
  obtain rfl := Option.some.inj h
  exact ⟨byteAt_of_getElem? hea, byteAt_of_getElem? h4, byteAt_of_getElem? h6⟩

/-- What port parameters change. -/
theorem readPortParams_eq {t : Target} {cur : List UInt8} {offset optLen : Nat} {d d' : MaptData}
    (h : (readPortParams t cur offset optLen d).value = some d') :
    ∃ psidOffset psid, d' =
      { d with
        psidOffset, psid
        psidLen := byteAt cur (offset + 5)
        ratio := if d.eaLen = 0 then ratioOf t (byteAt cur (offset + 5)) else d.ratio } := by
  obtain ⟨psidOffset, -, h⟩ := Logged.of_value_bind h
  obtain ⟨psidLen, hlen, h⟩ := Logged.of_value_bind h
  obtain ⟨ratio, hratio, h⟩ := Logged.of_value_bind h
  obtain ⟨bytes, -, h⟩ := Logged.of_value_bind h
  obtain ⟨psid, -, h⟩ := Logged.of_value_bind h
  obtain rfl := Option.some.inj h
  have hlen := byteAt_of_getElem? hlen
  rw [psidRatio_eq, Option.some.injEq, hlen] at hratio
  exact ⟨_, _, by rw [storePortParams, hlen, hratio]⟩

/-- Port parameters are read where they are. -/
theorem parsePortParams_eq {t : Target} {cur : List UInt8} {offset optLen : Nat} {d d' : MaptData}
    (h : (parsePortParams t cur offset optLen d).value = some d') :
    HasPortParams cur offset ∧ (readPortParams t cur offset optLen d).value = some d' ∨
      ¬ HasPortParams cur offset ∧ d' = d := by
  obtain ⟨header, hheader, h⟩ := Logged.of_value_bind h
  rw [value_readBytes] at hheader
  split at hheader
  · obtain rfl := Option.some.inj hheader
    simp only [ntohs_take (show 0 < 4 by decide) (show 1 < 4 by decide),
      ntohs_take (show 2 < 4 by decide) (show 3 < 4 by decide), Nat.add_zero] at h
    by_cases hpp : HasPortParams cur offset
    · have hif := hpp
      unfold HasPortParams at hif
      rw [if_pos hif] at h
      exact .inl ⟨hpp, h⟩
    · have hif := hpp
      unfold HasPortParams at hif
      rw [if_neg hif, Logged.value_pure, Option.some.injEq] at h
      exact .inr ⟨hpp, h.symm⟩
  · contradiction

/-- A rule leaves its own lengths, whatever was stored before it. -/
theorem Follows.parseRule {inetNtop : List UInt8 → String} {t : Target} {pd : String × Nat}
    {l : Lengths} {o : Found} {d d' : MaptData} (hrule : o.type = optionRule)
    (hd : Follows t pd l d) (h : (parseRule inetNtop t o.cur o.len d).value = some d') :
    Follows t pd (l.next o) d' := by
  obtain ⟨r, hr, h⟩ := Logged.of_value_bind h
  obtain ⟨ratio, hratio, h⟩ := Logged.of_value_bind h
  obtain ⟨hea, h4, h6⟩ := lengths_readRule hr
  rw [value_ratio, Option.some.injEq, hea, h4] at hratio
  simp only [h6] at h
  have hnext : l.next o =
      { l with
        eaLen := byteAt o.cur 1
        v4Len := byteAt o.cur 2
        v6Len := byteAt o.cur 7
        psidLen := if ReadsPortParams o.cur o.len then byteAt o.cur (ruleEnd o.cur + 5) else l.psidLen
        given := ReadsPortParams o.cur o.len } := if_pos hrule
  have hkept (hno : ¬ ReadsPortParams o.cur o.len) :
      Follows t pd (l.next o) (storeRatio ratio (storeRule inetNtop r d)) := by
    rw [hnext]
    refine ⟨hea, h4, h6, ?_, hd.dmrLen, fun _ => ?_, hd.delegated⟩
    · simpa [storeRatio, storeRule, hno] using hd.psidLen
    · simpa [storeRatio, Lengths.ratioBits, hno] using hratio.symm
  split at h
  · next h8 =>
    obtain ⟨hpp, h⟩ | ⟨hpp, rfl⟩ := parsePortParams_eq h
    · have hreads : ReadsPortParams o.cur o.len := ⟨h8, hpp⟩
      obtain ⟨psidOffset, psid, rfl⟩ := readPortParams_eq h
      rw [hnext]
      refine ⟨hea, h4, h6, ?_, hd.dmrLen, fun _ => ?_, hd.delegated⟩
      · simp [hreads, ruleEnd]
      · simp only [storeRatio, storeRule, hea, Lengths.ratioBits, hreads, decide_true, true_and,
          if_true]
        split
        · rfl
        · exact hratio.symm
    · exact hkept fun hreads => hpp hreads.2
  · next h8 =>
    obtain rfl := Option.some.inj h
    exact hkept fun hreads => h8 hreads.1

theorem Follows.parseOption {inetNtop : List UInt8 → String} {t : Target} {pd : String × Nat}
    {l : Lengths} {o : Found} {d d' : MaptData} (hd : Follows t pd l d)
    (h : (parseOption inetNtop t o d).value = some d') : Follows t pd (l.next o) d' := by
  unfold Mapt.parseOption at h
  split at h
  · next hrule => exact hd.parseRule hrule h
  · next hrule =>
    split at h
    · next hdmr =>
      obtain ⟨len, hlen, h⟩ := Logged.of_value_bind h
      obtain ⟨bytes, -, h⟩ := Logged.of_value_bind h
      obtain ⟨-, -, h⟩ := Logged.of_value_bind h
      obtain rfl := Option.some.inj h
      rw [Lengths.next, if_neg hrule, if_pos hdmr]
      exact ⟨hd.eaLen, hd.v4Len, hd.v6Len, hd.psidLen, byteAt_of_getElem? hlen, hd.ratio, hd.delegated⟩
    · next hdmr =>
      obtain rfl := Option.some.inj h
      rw [Lengths.next, if_neg hrule, if_neg hdmr]
      exact hd

theorem isSome_parsePortParams (t t' : Target) (cur : List UInt8) (offset optLen : Nat)
    (d d' : MaptData) : (parsePortParams t cur offset optLen d).value.isSome =
      (parsePortParams t' cur offset optLen d').value.isSome := by
  unfold parsePortParams readPortParams
  simp only [Logged.value_bind, Option.isSome_bind, Logged.value_ite, apply_ite Option.isSome,
    psidRatio_eq, Option.any_some, shiftRight, Logged.value_access, Logged.value_pure,
    Option.isSome_some]

/-- Whether an option can be read to its end depends neither on the target nor on what was
stored before. -/
theorem isSome_parseOption (inetNtop : List UInt8 → String) (t t' : Target) (o : Found)
    (d d' : MaptData) : (parseOption inetNtop t o d).value.isSome =
      (parseOption inetNtop t' o d').value.isSome := by
  unfold parseOption
  split
  · have hread : (readRule t o.cur o.len).value = (readRule t' o.cur o.len).value := by
      simp only [readRule, Logged.value_bind, value_maskPrefix]
    unfold parseRule
    simp only [Logged.value_bind, hread, value_ratio, Option.bind_some, Option.isSome_bind]
    congr 1
    funext r
    split
    · exact isSome_parsePortParams ..
    · rfl
  · split <;> simp [parseDmr, Option.isSome_bind]

theorem isSome_parseOptions (inetNtop : List UInt8 → String) (t t' : Target) (os : List Found)
    (d d' : MaptData) : (parseOptions inetNtop t os d).value.isSome =
      (parseOptions inetNtop t' os d').value.isSome := by
  induction os generalizing d d' with
  | nil => simp
  | cons o os ih =>
    have ho := isSome_parseOption inetNtop t t' o d d'
    simp only [parseOptions_cons, Logged.value_bind]
    cases h : (parseOption inetNtop t o d).value with
    | none =>
      rw [h, Option.isSome_none, eq_comm, Option.isSome_eq_false_iff, Option.isNone_iff_eq_none] at ho
      rw [ho, Option.bind_none, Option.bind_none]
    | some d₁ =>
      rw [h, Option.isSome_some, eq_comm, Option.isSome_iff_exists] at ho
      obtain ⟨d₂, hd₂⟩ := ho
      rw [hd₂, Option.bind_some, Option.bind_some, ih d₁ d₂]

/-- The lengths that the options leave, one after another. -/
theorem Follows.parseOptions {inetNtop : List UInt8 → String} {t : Target} {pd : String × Nat}
    {os : List Found} {l : Lengths} {d d' : MaptData} (hd : Follows t pd l d)
    (h : (parseOptions inetNtop t os d).value = some d') :
    Follows t pd (os.foldl Lengths.next l) d' := by
  induction os generalizing l d with
  | nil =>
    obtain rfl := Option.some.inj h
    exact hd
  | cons o os ih =>
    rw [parseOptions_cons] at h
    obtain ⟨d₁, hd₁, h⟩ := Logged.of_value_bind h
    exact ih (hd.parseOption hd₁) h

/-! ## What is accepted -/

/-- The parser goes through the payload in `buf`, finds both rules, and takes the delegated prefix
for one below that of the rule. -/
structure Accepts (inet : Inet) (buf : List UInt8) (len : Nat) (pd : String × Nat) : Prop where
  second : byteAt buf 1 ≠ 0
  address : pd.1 ≠ ""
  read : ∀ t d, (parseOptions inet.ntop t (walk len buf).1 d).value.isSome
  ending : (walk len buf).2 = .done
  v6Len : (lengths (walk len buf).1).v6Len ≠ 0
  dmrLen : (lengths (walk len buf).1).dmrLen ≠ 0
  eaLen : (((pd.2 : Int) - (lengths (walk len buf).1).v6Len) % 256).toNat =
    (lengths (walk len buf).1).eaLen
  below : (lengths (walk len buf).1).v6Len ≤ pd.2
  known : (inet.pton pd.1).isSome

/-- What is handed on has the lengths of the payload. -/
def Stored (t : Target) (pd : String × Nat) (l : Lengths) (p : MaptParams) : Prop :=
  ∃ d, Follows t pd l d ∧ p = fillParams d

theorem follows_zeroed (t : Target) (pd : String × Nat) :
    Follows t pd {} { pdIPv6Prefix := pd.1, pdIPv6PrefixLen := pd.2 } :=
  ⟨rfl, rfl, rfl, rfl, rfl, fun h => absurd rfl h, rfl⟩

theorem splitPrefix_length {s : List Char} {pd : String × Nat} (h : splitPrefix s = some pd) :
    pd.1.length < 40 := by
  unfold splitPrefix at h
  simp only at h
  split at h
  · contradiction
  · split at h
    · next hlt =>
      obtain rfl := Option.some.inj h
      simpa using hlt
    · contradiction

/-- A payload that goes through the parser. -/
theorem parseResponse_success {inetNtop : List UInt8 → String} {t : Target} {buf : List UInt8}
    {len : Nat} {d : MaptData} {r : ReturnStatus × MaptData} (hlen : len ≤ buf.length)
    (h : (parseResponse inetNtop t buf len d).value = some r) (hok : r.1 ≠ .failure) :
    byteAt buf 1 ≠ 0 ∧ (parseOptions inetNtop t (walk len buf).1 d).value = some r.2 ∧
      (walk len buf).2 = .done ∧ r.2.ruleIPv6PrefixLen ≠ 0 ∧ r.2.brIPv6PrefixLen ≠ 0 := by
  obtain ⟨second, h2, h⟩ := Logged.of_value_bind h
  split at h
  · obtain rfl := Option.some.inj h
    exact absurd rfl hok
  · next hne =>
    obtain ⟨r', hloop, h⟩ := Logged.of_value_bind h
    split at h
    · obtain rfl := Option.some.inj h
      exact absurd rfl hok
    · next hparts =>
      obtain rfl := Option.some.inj h
      obtain ⟨h6, hbr⟩ := not_or.mp hparts
      rw [(parseLoop_walk inetNtop t len buf d hlen).1] at hloop
      obtain ⟨d', hd', rfl⟩ := Option.map_eq_some_iff.mp hloop
      refine ⟨fun h0 => hne ?_, hd', ?_, h6, hbr⟩
      · rw [← UInt8.toNat_inj, byteAt_of_getElem? h2, h0]
        rfl
      · cases hend : (walk len buf).2 with
        | done => rfl
        | overrun => exact absurd (congrArg endingStatus hend) hok

theorem maptValidate_iff {inet : Inet} {pd : String} {pdLen v6Len : Nat} {d : MaptData} :
    maptValidate inet pd pdLen v6Len d ≠ .failure ↔
      (((pdLen : Int) - v6Len) % 256).toNat = d.eaLen ∧ v6Len ≤ pdLen ∧ (inet.pton pd).isSome := by
  unfold maptValidate
  cases inet.pton pd <;> simp

/-- The run of the parser over a payload that is accepted. -/
theorem parsed {inet : Inet} {t : Target} {pd : List Char} {text : List UInt8} {p : MaptParams}
    (h : (maptParseOpt95Response inet t pd text).value = some (some p)) :
    ∃ buf len pd' d, convertStringToHexStream text = some (buf, len) ∧ splitPrefix pd = some pd' ∧
      pd'.1 ≠ "" ∧ byteAt buf 1 ≠ 0 ∧
      (parseOptions inet.ntop t (walk len buf).1
        { pdIPv6Prefix := pd'.1, pdIPv6PrefixLen := pd'.2 }).value = some d ∧
      (walk len buf).2 = .done ∧ d.ruleIPv6PrefixLen ≠ 0 ∧ d.brIPv6PrefixLen ≠ 0 ∧
      maptValidate inet pd'.1 pd'.2 d.ruleIPv6PrefixLen d ≠ .failure ∧ p = fillParams d := by
  unfold maptParseOpt95Response at h
  obtain ⟨⟨buf, len⟩, hbuf, h⟩ := Logged.of_value_bind h
  obtain ⟨pd', hpd, h⟩ := Logged.of_value_bind h
  obtain ⟨hlen, -⟩ := convertStringToHexStream_fits hbuf
  simp only at h
  split at h
  · simp at h
  · next haddress =>
    obtain ⟨r, hr, h⟩ := Logged.of_value_bind h
    split at h
    · simp at h
    · next hok =>
      split at h
      · simp at h
      · next hvalid =>
        obtain rfl := Option.some.inj (Option.some.inj h)
        obtain ⟨hsecond, hread, hend, h6, hbr⟩ := parseResponse_success hlen hr hok
        exact ⟨buf, len, pd', r.2, hbuf, hpd, haddress, hsecond, hread, hend, h6, hbr, hvalid, rfl⟩

/-- What is accepted, and what is handed on then. -/
theorem accepted {inet : Inet} {t : Target} {pd : List Char} {text buf : List UInt8} {len : Nat}
    {pd' : String × Nat} {p : MaptParams} (hbuf : convertStringToHexStream text = some (buf, len))
    (hpd : splitPrefix pd = some pd')
    (h : (maptParseOpt95Response inet t pd text).value = some (some p)) :
    Accepts inet buf len pd' ∧ Stored t pd' (lengths (walk len buf).1) p := by
  obtain ⟨_, _, _, d, hbuf', hpd', haddress, hsecond, hread, hend, h6, hbr, hvalid, rfl⟩ := parsed h
  obtain ⟨rfl, rfl⟩ := Prod.mk.inj (Option.some.inj (hbuf.symm.trans hbuf'))
  obtain rfl := Option.some.inj (hpd.symm.trans hpd')
  have hfollows : Follows t pd' (lengths (walk len buf).1) d :=
    (follows_zeroed t pd').parseOptions hread
  obtain ⟨hea, hbelow, hknown⟩ := maptValidate_iff.mp hvalid
  rw [hfollows.eaLen, hfollows.v6Len] at hea
  rw [hfollows.v6Len] at h6 hbelow
  rw [hfollows.dmrLen] at hbr
  have hreads (t' : Target) (d' : MaptData) :
      (parseOptions inet.ntop t' (walk len buf).1 d').value.isSome := by
    rw [isSome_parseOptions inet.ntop t' t _ d'
      { pdIPv6Prefix := pd'.1, pdIPv6PrefixLen := pd'.2 }, hread]
    rfl
  exact ⟨⟨hsecond, haddress, hreads, hend, h6, hbr, hea, hbelow, hknown⟩, _, hfollows, rfl⟩

/-- What is accepted once is accepted whatever the target makes of a shift. -/
theorem Accepts.value {inet : Inet} {pd : List Char} {text buf : List UInt8} {len : Nat}
    {pd' : String × Nat} (hacc : Accepts inet buf len pd')
    (hbuf : convertStringToHexStream text = some (buf, len)) (hpd : splitPrefix pd = some pd')
    (t : Target) : ∃ p, (maptParseOpt95Response inet t pd text).value = some (some p) := by
  obtain ⟨hlen, h2⟩ := convertStringToHexStream_fits hbuf
  obtain ⟨d, hd⟩ := Option.isSome_iff_exists.mp (hacc.read t
    { pdIPv6Prefix := pd'.1, pdIPv6PrefixLen := pd'.2 })
  have hfollows : Follows t pd' (lengths (walk len buf).1) d :=
    (follows_zeroed t pd').parseOptions hd
  have hloop := (parseLoop_walk inet.ntop t len buf
    { pdIPv6Prefix := pd'.1, pdIPv6PrefixLen := pd'.2 } hlen).1
  rw [hd, hacc.ending] at hloop
  have hget : buf[1]? = some (buf.getD 1 0) := getElem?_eq_getD (by omega)
  have hne : buf.getD 1 0 ≠ 0 := by
    intro h0
    exact hacc.second (by rw [byteAt, h0]; rfl)
  have hparts : ¬ (d.ruleIPv6PrefixLen = 0 ∨ d.brIPv6PrefixLen = 0) := by
    rw [hfollows.v6Len, hfollows.dmrLen]
    exact not_or.mpr ⟨hacc.v6Len, hacc.dmrLen⟩
  have hresponse : (parseResponse inet.ntop t buf len
      { pdIPv6Prefix := pd'.1, pdIPv6PrefixLen := pd'.2 }).value = some (.success, d) := by
    unfold parseResponse
    rw [Logged.value_bind, value_readByte, hget, Option.bind_some, if_neg hne, Logged.value_bind,
      hloop, Option.map_some, Option.bind_some, if_neg hparts]
    rfl
  have hvalid : maptValidate inet pd'.1 pd'.2 d.ruleIPv6PrefixLen d ≠ .failure := by
    rw [maptValidate_iff, hfollows.v6Len, hfollows.eaLen]
    exact ⟨hacc.eaLen, hacc.below, hacc.known⟩
  refine ⟨fillParams d, ?_⟩
  unfold maptParseOpt95Response
  simp only [hbuf, hpd, Logged.value_bind, Logged.value_known, Option.bind_some]
  rw [if_neg hacc.address, Logged.value_bind, hresponse, Option.bind_some, if_neg (by simp), if_neg hvalid]
  rfl

/-! ## What is configured -/

/-- The length of the PSID that the parameters state, or imply by their EA bits. -/
def MaptParams.impliedPsidLen (p : MaptParams) : Int :=
  if p.psidLen ≠ 0 then p.psidLen else p.eaLen - (32 - (p.v4Len : Int))

/-- The configurator accepts the parameters, finds the length of the PSID that they have, and
shares an address among the power of two that it stands for. -/
def Agrees (inet : Inet) (t : Target) (lan : Option String) (p : MaptParams) : Prop :=
  ∃ p' cfg, (verifyMAPTConfiguration inet t lan p).value = some (some (p', cfg)) ∧
    cfg.psidLen = p.impliedPsidLen ∧ ∃ n : Nat, cfg.psidLen = n ∧ p'.ratio = 2 ^ n

/-- The bytes that the EA bits are taken out of lie in the address. -/
def InAddress (v6PrefixLen : Nat) (eaLen : Int) : Prop :=
  (eaByteCount eaLen = 0 ∨ v6PrefixLen / 8 + eaByteCount eaLen ≤ 16) ∧
    (v6PrefixLen % 8 ≠ 0 → v6PrefixLen / 8 + eaByteCount eaLen < 16)

instance (v6PrefixLen : Nat) (eaLen : Int) : Decidable (InAddress v6PrefixLen eaLen) :=
  inferInstanceAs (Decidable (_ ∧ _))

theorem loadBytes_isSome {a : List UInt8} {start n : Nat} (ha : a.length = 16) :
    (loadBytes a start n).value.isSome ↔ n = 0 ∨ start + n ≤ 16 := by
  unfold loadBytes
  split
  · next h => simp [h]
  · next h => simp [h, ha, Option.isSome_bind]

theorem loadLast_isSome {a : List UInt8} {i shift : Nat} {w : BitVec 64} (ha : a.length = 16) :
    (loadLast a i shift w).value.isSome ↔ (shift ≠ 0 → i < 16) := by
  unfold loadLast
  split
  · next h => simp [h, ← ha, Option.isSome_bind]
  · next h => simp [h]

theorem exists_getMAPTbits (t : Target) (v : Nat) (pos num : Int) :
    ∃ bits, (getMAPTbits t v pos num).value = some bits := by
  simp [getMAPTbits, shiftRight, shiftLeft]

/-- There is a result when there are EA bits, and it has what they leave for the PSID. -/
theorem calculate_psidLen {inet : Inet} {t : Target} {pd : String} {v6 iapd v4 : Nat} {n : Int}
    (hknown : (inet.pton pd).isSome) :
    (∃ r, (calculatePsidAndV4Index inet t pd v6 iapd v4).value = some (some r) ∧ r.psidLen = n) ↔
      v6 < iapd ∧ InAddress v6 (iapd - v6) ∧ n = iapd - v6 - (32 - (v4 : Int)) := by
  obtain ⟨a, ha⟩ := Option.isSome_iff_exists.mp hknown
  have hlen := inet.length_pton pd a ha
  unfold calculatePsidAndV4Index
  split
  · next hle =>
    constructor
    · rintro ⟨r, h, -⟩
      simp at h
    · omega
  · next hlt =>
    rw [ha]
    constructor
    · rintro ⟨r, h, rfl⟩
      obtain ⟨w, hw, h⟩ := Logged.of_value_bind h
      obtain ⟨w', hw', h⟩ := Logged.of_value_bind h
      obtain ⟨index, -, h⟩ := Logged.of_value_bind h
      obtain ⟨psid, -, h⟩ := Logged.of_value_bind h
      obtain rfl := Option.some.inj (Option.some.inj h)
      exact ⟨by omega, ⟨(loadBytes_isSome hlen).mp (Option.isSome_of_eq_some hw),
        (loadLast_isSome hlen).mp (Option.isSome_of_eq_some hw')⟩, rfl⟩
    · rintro ⟨-, ⟨hbytes, hlast⟩, rfl⟩
      obtain ⟨w, hw⟩ := Option.isSome_iff_exists.mp ((loadBytes_isSome hlen).mpr hbytes)
      obtain ⟨w', hw'⟩ := Option.isSome_iff_exists.mp ((loadLast_isSome (w := w) hlen).mpr hlast)
      obtain ⟨index, hindex⟩ := exists_getMAPTbits t (w'.toNat % 2 ^ 32)
        (eaStartPos (eaByteCount (iapd - v6)) (v6 % 8)) (32 - v4)
      obtain ⟨psid, hpsid⟩ := exists_getMAPTbits t (w'.toNat % 2 ^ 32)
        (eaStartPos (eaByteCount (iapd - v6)) (v6 % 8) - (32 - v4)) (iapd - v6 - (32 - v4))
      rw [Logged.value_bind, hw, Option.bind_some, Logged.value_bind, hw', Option.bind_some,
        Logged.value_bind, hindex, Option.bind_some, Logged.value_bind, hpsid, Option.bind_some]
      exact ⟨_, Logged.value_pure _, rfl⟩

/-- The length of the PSID that the configurator finds. -/
def MaptParams.Finds (p : MaptParams) (n : Int) : Prop :=
  if 0 < p.psidLen ∧ p.eaLen = 0 then n = p.psidLen
  else p.v6Len < p.iapdPrefixLen ∧ InAddress p.v6Len (p.iapdPrefixLen - p.v6Len) ∧
    n = p.iapdPrefixLen - p.v6Len - (32 - (p.v4Len : Int))

theorem psidAndV4Index_psidLen {inet : Inet} {t : Target} {p : MaptParams} {n : Int}
    (hknown : (inet.pton p.pdIPv6Prefix).isSome) :
    (∃ r, (psidAndV4Index inet t p).value = some (some r) ∧ r.psidLen = n) ↔ p.Finds n := by
  unfold psidAndV4Index MaptParams.Finds
  split
  · simp [eq_comm]
  · exact calculate_psidLen hknown

/-- The configurator accepts what it finds a PSID for, when there is a LAN address. -/
theorem verify_iff {inet : Inet} {t : Target} {lan : Option String} {p : MaptParams} {n : Int}
    {ratio : Nat} (hknown : (inet.pton p.pdIPv6Prefix).isSome) :
    (∃ p' cfg, (verifyMAPTConfiguration inet t lan p).value = some (some (p', cfg)) ∧
        cfg.psidLen = n ∧ p'.ratio = ratio) ↔
      lan.isSome ∧ p.Finds n ∧ p.withRatio.ratio = ratio := by
  obtain ⟨a, ha⟩ := Option.isSome_iff_exists.mp hknown
  have hfinds : p.withRatio.Finds n ↔ p.Finds n := Iff.rfl
  rw [← hfinds, ← psidAndV4Index_psidLen (t := t) (p := p.withRatio) hknown]
  constructor
  · rintro ⟨p', cfg, h, rfl, rfl⟩
    obtain ⟨r, hr, h⟩ := Logged.of_value_bind h
    match r, lan with
    | none, _ | some _, none => simp at h
    | some r, some lan =>
      simp only [configureIpv6Sysevents, ha, Option.map_some, Logged.value_pure, Option.some.injEq,
        Prod.mk.injEq] at h
      obtain ⟨rfl, rfl⟩ := h
      exact ⟨rfl, ⟨r, hr, rfl⟩, rfl⟩
  · rintro ⟨hlan, ⟨r, hr, rfl⟩, rfl⟩
    obtain ⟨lan, rfl⟩ := Option.isSome_iff_exists.mp hlan
    refine ⟨p.withRatio, ⟨r.psidValue, r.psidLen,
      addressText (inet.pton4 p.ruleIPv4Prefix + .ofInt r.ipv4IndexValue), lan⟩, ?_, rfl, rfl⟩
    unfold verifyMAPTConfiguration
    rw [Logged.value_bind, hr, Option.bind_some]
    simp only [configureIpv6Sysevents, ha, Option.map_some]
    rfl

theorem agrees_iff {inet : Inet} {t : Target} {lan : Option String} {p : MaptParams}
    (hknown : (inet.pton p.pdIPv6Prefix).isSome) :
    Agrees inet t lan p ↔ lan.isSome ∧
      ∃ n : Nat, p.Finds n ∧ n = p.impliedPsidLen ∧ p.withRatio.ratio = 2 ^ n := by
  constructor
  · rintro ⟨p', cfg, h, himplied, n, hn, hratio⟩
    obtain ⟨hlan, hfinds, hratio⟩ := (verify_iff hknown).mp ⟨p', cfg, h, hn, hratio⟩
    exact ⟨hlan, n, hfinds, hn.symm.trans himplied, hratio⟩
  · rintro ⟨hlan, n, hfinds, himplied, hratio⟩
    obtain ⟨p', cfg, h, hn, hratio⟩ := (verify_iff (t := t) hknown).mpr ⟨hlan, hfinds, hratio⟩
    exact ⟨p', cfg, h, hn.trans himplied, n, hn, hratio⟩

/-! ## Agreement -/

/-- Lengths that both sides take for the same PSID and ratio: the bits that the ratio is made of
can be shifted by and are those of a PSID that is given, and either there are no EA bits and such a
PSID, or the EA bits are those between the two prefixes and lie in the address. -/
structure Lengths.Consistent (l : Lengths) (pdLen : Nat) : Prop where
  ratio : 0 ≤ l.ratioBits ∧ l.ratioBits < 32
  psid : l.psidLen ≠ 0 → l.ratioBits = l.psidLen
  given : l.eaLen = 0 → l.psidLen ≠ 0
  ea : l.eaLen ≠ 0 → pdLen = l.v6Len + l.eaLen ∧ InAddress l.v6Len l.eaLen

theorem ratioBits_of_ea {l : Lengths} (h : l.eaLen ≠ 0) :
    l.ratioBits = l.eaLen - (32 - (l.v4Len : Int)) := by
  simp [Lengths.ratioBits, h]

/-- The parameters that the parser stores for the lengths of a payload. -/
theorem Stored.fields {t : Target} {pd : String × Nat} {l : Lengths} {p : MaptParams}
    (h : Stored t pd l p) (hpd : pd.1.length < 40) :
    p.eaLen = l.eaLen ∧ p.v4Len = l.v4Len ∧ p.v6Len = l.v6Len ∧ p.psidLen = l.psidLen ∧
      p.iapdPrefixLen = pd.2 ∧ p.pdIPv6Prefix = pd.1 ∧
        (l.v6Len ≠ 0 → p.ratio = ratioOf t l.ratioBits) := by
  obtain ⟨d, hd, rfl⟩ := h
  obtain rfl := hd.delegated
  exact ⟨hd.eaLen, hd.v4Len, hd.v6Len, hd.psidLen, rfl, if_pos hpd, hd.ratio⟩

/-- A target that makes a ratio out of an undefined shift which is no power of two. -/
def threeways : Target := ⟨fun _ _ => 3, fun _ _ => 0⟩

theorem ratioOf_threeways {n : Int} {k : Nat}
    (h : (if ratioOf threeways n = 0 then 1 else ratioOf threeways n) = 2 ^ k) : n = k ∧ k < 32 := by
  unfold ratioOf at h
  split at h
  · next hn =>
    rw [if_neg (Nat.two_pow_pos _).ne'] at h
    have := Nat.pow_right_injective (Nat.le_refl 2) h
    omega
  · have h3 : 3 = 2 ^ k := h
    have hlt : k < 2 := by
      by_contra hk
      have hpow : 2 ^ 2 ≤ 2 ^ k := Nat.pow_le_pow_right (by decide) (by omega)
      omega
    interval_cases k <;> omega

/-- Consistent lengths are configured as they were stored. -/
theorem Stored.agrees {inet : Inet} {t : Target} {lan : Option String} {pd : String × Nat}
    {l : Lengths} {p : MaptParams} (h : Stored t pd l p) (hpd : pd.1.length < 40)
    (hknown : (inet.pton pd.1).isSome) (h6 : l.v6Len ≠ 0) (hlan : lan.isSome)
    (hl : l.Consistent pd.2) : Agrees inet t lan p := by
  obtain ⟨hea, h4, hv6, hpsid, hiapd, haddress, hratio⟩ := h.fields hpd
  obtain ⟨h0, h32⟩ := hl.ratio
  obtain ⟨n, hn⟩ := Int.eq_ofNat_of_zero_le h0
  have hpow : p.ratio = 2 ^ n := by
    rw [hratio h6, ratioOf, if_pos ⟨h0, h32⟩, hn]
    rfl
  have hwith : p.withRatio.ratio = 2 ^ n := by
    rw [MaptParams.withRatio, hpow, if_neg (Nat.two_pow_pos n).ne']
  have hgiven : l.psidLen ≠ 0 → n = l.psidLen := by
    intro hne
    have := hl.psid hne
    omega
  rw [agrees_iff (by rwa [haddress])]
  refine ⟨hlan, n, ?_, ?_, hwith⟩
  · unfold MaptParams.Finds
    rw [hea, h4, hv6, hpsid, hiapd]
    by_cases he : l.eaLen = 0
    · have hne := hl.given he
      rw [if_pos ⟨by omega, he⟩, hgiven hne]
    · obtain ⟨hpd, hin⟩ := hl.ea he
      have hbits := ratioBits_of_ea he
      have hcast : (pd.2 : Int) - l.v6Len = l.eaLen := by omega
      rw [if_neg (by omega), hcast]
      exact ⟨by omega, hin, by omega⟩
  · unfold MaptParams.impliedPsidLen
    rw [hea, h4, hpsid]
    split
    · next hne => exact congrArg Nat.cast (hgiven hne)
    · next h0 =>
      have he : l.eaLen ≠ 0 := fun he => absurd (hl.given he) h0
      rw [← ratioBits_of_ea he, hn]

/-- Lengths that are configured as they were stored, on a target that takes no undefined shift for
a power of two, are consistent. -/
theorem Stored.consistent {inet : Inet} {lan : Option String} {pd : String × Nat}
    {l : Lengths} {p : MaptParams} (h : Stored threeways pd l p) (hpd : pd.1.length < 40)
    (hknown : (inet.pton pd.1).isSome) (h6 : l.v6Len ≠ 0)
    (hagrees : Agrees inet threeways lan p) : lan.isSome ∧ l.Consistent pd.2 := by
  obtain ⟨hea, h4, hv6, hpsid, hiapd, haddress, hratio⟩ := h.fields hpd
  obtain ⟨hlan, n, hfinds, himplied, hpow⟩ := (agrees_iff (by rwa [haddress])).mp hagrees
  rw [MaptParams.withRatio, hratio h6] at hpow
  obtain ⟨hbits, hn⟩ := ratioOf_threeways hpow
  unfold MaptParams.Finds at hfinds
  unfold MaptParams.impliedPsidLen at himplied
  rw [hea, h4, hv6, hpsid, hiapd] at hfinds
  rw [hea, h4, hpsid] at himplied
  refine ⟨hlan, by omega, fun hne => ?_, fun he hp => ?_, fun he => ?_⟩
  · rw [if_pos hne] at himplied
    omega
  · rw [if_neg (by omega)] at hfinds
    rw [if_neg (not_not.mpr hp)] at himplied
    omega
  · rw [if_neg (by omega)] at hfinds
    have hbits' := ratioBits_of_ea he
    have hcast : (pd.2 : Int) - l.v6Len = l.eaLen := by omega
    rw [hcast] at hfinds
    exact ⟨by omega, hfinds.2.1⟩

/-- What the parser accepts, the configurator accepts with the same length of the PSID and the
ratio that belongs to it, whatever the target makes of undefined shifts, exactly when there is a
LAN address and the lengths of the payload are consistent. -/
theorem agree_iff {inet : Inet} {lan : Option String} {pd : List Char} {text buf : List UInt8}
    {len pdLen : Nat} {address : String} (hbuf : convertStringToHexStream text = some (buf, len))
    (hpd : splitPrefix pd = some (address, pdLen))
    (hacc : ∃ t p, (maptParseOpt95Response inet t pd text).value = some (some p)) :
    (∀ t p, (maptParseOpt95Response inet t pd text).value = some (some p) → Agrees inet t lan p) ↔
      lan.isSome ∧ (lengths (walk len buf).1).Consistent pdLen := by
  obtain ⟨t₀, p₀, h₀⟩ := hacc
  obtain ⟨hacc, -⟩ := accepted hbuf hpd h₀
  have hlt := splitPrefix_length hpd
  constructor
  · intro hall
    obtain ⟨p, hp⟩ := hacc.value hbuf hpd threeways
    obtain ⟨-, hstored⟩ := accepted hbuf hpd hp
    exact hstored.consistent hlt hacc.known hacc.v6Len (hall threeways p hp)
  · rintro ⟨hlan, hl⟩ t p hp
    obtain ⟨-, hstored⟩ := accepted hbuf hpd hp
    exact hstored.agrees hlt hacc.known hacc.v6Len hlan hl

/-- A payload as the text that is handed on, in lower case. -/
def payloadText (bytes : List UInt8) : List UInt8 :=
  bytes.flatMap (fun b => [.ofNat (Nat.digitChar (b.toNat / 16)).toNat,
    .ofNat (Nat.digitChar (b.toNat % 16)).toNat]) ++ [0]

/-- A rule for the first `n` bytes of the delegated prefix, and a default mapping rule. -/
def payload (eaLen v4Len : UInt8) (n : Nat) : List UInt8 :=
  let rule := [0, eaLen, v4Len, 192, 0, 2, 1, .ofNat (8 * n)] ++ delegated.take n
  [0, 89] ++ htons rule.length ++ rule ++ [0, 91, 0, 5, 32, 0x20, 0x01, 0x0d, 0xb8]

/-- What is left of it in the buffer that the bytes take. -/
def payloadBuffer (bytes : List UInt8) : List UInt8 :=
  bytes ++ 0 :: (payloadText bytes).drop (bytes.length + 1)

theorem agree_shared :
    (∀ t p, (maptParseOpt95Response oneAddress t "2001:db8:4000::/56".toList
        (payloadText (payload 16 24 5))).value = some (some p) →
      Agrees oneAddress t (some "192.168.0.1/24") p) ↔
        (some "192.168.0.1/24").isSome ∧
          (lengths (walk 26 (payloadBuffer (payload 16 24 5))).1).Consistent 56 := by
  have hbuf : convertStringToHexStream (payloadText (payload 16 24 5)) =
      some (payloadBuffer (payload 16 24 5), 26) := by decide +kernel
  have hpd : splitPrefix "2001:db8:4000::/56".toList = some ("2001:db8:4000::", 56) := by
    decide +kernel
  have hacc : (maptParseOpt95Response oneAddress ⟨fun _ _ => 0, fun _ _ => 0⟩
      "2001:db8:4000::/56".toList (payloadText (payload 16 24 5))).value.bind id |>.isSome := by
    decide +kernel
  obtain ⟨p, hp⟩ := Option.isSome_iff_exists.mp hacc
  obtain ⟨_, hp, rfl⟩ := Option.bind_eq_some_iff.mp hp
  exact agree_iff hbuf hpd ⟨_, p, hp⟩

/-- A rule for one address, with the delegated prefix as its prefix: it is accepted by the parser
and turned down by the configurator. -/
theorem oneToOne_rejected :
    ∃ p, (maptParseOpt95Response oneAddress ⟨fun _ _ => 0, fun _ _ => 0⟩
        "2001:db8:4000::/64".toList (payloadText (payload 0 32 8))).value = some (some p) ∧
      p.eaLen = 0 ∧ p.v4Len = 32 ∧
      ¬ Agrees oneAddress ⟨fun _ _ => 0, fun _ _ => 0⟩ (some "192.168.0.1/24") p := by
  have hrun : ((maptParseOpt95Response oneAddress ⟨fun _ _ => 0, fun _ _ => 0⟩
      "2001:db8:4000::/64".toList (payloadText (payload 0 32 8))).value.bind id).map
        (fun p => (p.eaLen, p.v4Len, p.psidLen, p.v6Len, p.iapdPrefixLen)) =
          some (0, 32, 0, 64, 64) := by decide +kernel
  obtain ⟨p, hp, hlens⟩ := Option.map_eq_some_iff.mp hrun
  obtain ⟨_, hp, rfl⟩ := Option.bind_eq_some_iff.mp hp
  simp only [Prod.mk.injEq] at hlens
  obtain ⟨hea, h4, hpsid, h6, hiapd⟩ := hlens
  refine ⟨p, hp, hea, h4, fun hagrees => ?_⟩
  obtain ⟨-, n, hfinds, -⟩ := (agrees_iff rfl).mp hagrees
  simp [MaptParams.Finds, hpsid, h6, hiapd] at hfinds

end Mapt

end WanManager
