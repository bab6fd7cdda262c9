import WanManager.MaptOption

/-! # Memory and shifts of the option parser

When the parser of option 95 stays inside of what it reads and writes, for every buffer. It does
not look at the length of a rule or of a default mapping rule before it reads them, nor at the
lengths that they hold, so it does so exactly when these fit. -/

namespace WanManager
open Wire

namespace Mapt

/-! ## What fits -/

/-- The option at `offset` has the type and the length of port parameters. -/
def HasPortParams (cur : List UInt8) (offset : Nat) : Prop :=
  byteAt cur offset * 256 + byteAt cur (offset + 1) = optionPortParams ∧
    byteAt cur (offset + 2) * 256 + byteAt cur (offset + 3) = 4

instance (cur : List UInt8) (offset : Nat) : Decidable (HasPortParams cur offset) :=
  inferInstanceAs (Decidable (_ ∧ _))

/-- Where the options of a rule start. -/
def ruleEnd (cur : List UInt8) : Nat := 8 + prefixBytes (byteAt cur 7)

/-- A rule with port parameters that are looked at. -/
def ReadsPortParams (cur : List UInt8) (optLen : Nat) : Prop :=
  bytesLeftOut optLen (byteAt cur 7) = 8 ∧ HasPortParams cur (ruleEnd cur)

instance (cur : List UInt8) (optLen : Nat) : Decidable (ReadsPortParams cur optLen) :=
  inferInstanceAs (Decidable (_ ∧ _))

/-- A rule that can be read: it holds its prefix, which takes no more than 24 bytes, the bits
that its lengths leave for the PSID are between 0 and 31, and a PSID that is given has no more
than 16. -/
structure RuleFits (cur : List UInt8) (optLen : Nat) : Prop where
  holds : Holds cur optLen
  ratio : 32 ≤ byteAt cur 1 + byteAt cur 2 ∧ byteAt cur 1 + byteAt cur 2 < 64
  psid : ReadsPortParams cur optLen → byteAt cur (ruleEnd cur + 5) ≤ 16

/-- A default mapping rule that can be read: it holds its prefix, which takes no more than 24
bytes. -/
def DmrFits (cur : List UInt8) (optLen : Nat) : Prop :=
  1 + byteAt cur 0 / 8 ≤ optLen ∧ byteAt cur 0 / 8 ≤ 24

instance (cur : List UInt8) (optLen : Nat) : Decidable (DmrFits cur optLen) :=
  inferInstanceAs (Decidable (_ ∧ _))

/-- An option that can be read. -/
def Fits (o : Found) : Prop :=
  (o.type = optionRule → RuleFits o.cur o.len) ∧ (o.type = optionDmr → DmrFits o.cur o.len)

/-! ## One option -/

theorem ntohs_take {p : List UInt8} {i n j k : Nat} (hj : j < n) (hk : k < n) :
    ntohs (((p.drop i).take n).getD j 0) (((p.drop i).take n).getD k 0) =
      byteAt p (i + j) * 256 + byteAt p (i + k) := by
  simp [ntohs, byteAt, List.getD, hj, hk]

theorem bytesLeftOut_eq {optLen len : Nat} (h : 8 + prefixBytes len ≤ optLen)
    (h8 : bytesLeftOut optLen len = 8) : 8 + prefixBytes len + 8 ≤ optLen := by
  unfold bytesLeftOut at h8
  omega

theorem value_psidRatio (t : Target) (n : Nat) (d : MaptData) :
    ∃ r, (psidRatio t n d).value = some r := by
  unfold psidRatio
  split <;> exact ⟨_, rfl⟩

/-- Port parameters with their eight bytes are read inside of the rule; the count of the shift
that takes the PSID out of its field is left. -/
theorem clean_readPortParams {t : Target} {cur : List UInt8} {offset optLen : Nat} {d : MaptData}
    (h : optLen ≤ cur.length) (hroom : offset + 8 ≤ optLen) :
    (readPortParams t cur offset optLen d).Clean Access.Legal ↔
      byteAt cur (offset + 5) ≤ 16 := by
  have hbyte (i : Nat) (hi : i < 8) : (readByte cur (offset + i) optLen).Clean Access.Legal :=
    (clean_readByte h).mpr (by omega)
  have hget (i : Nat) (hi : i < 8) :
      (readByte cur (offset + i) optLen).value = some (cur.getD (offset + i) 0) :=
    getElem?_eq_getD (by omega)
  have hlast : (readBytes cur (offset + 6) 2 optLen).Clean Access.Legal :=
    (clean_readBytes h (by omega)).mpr (by omega)
  have hlen : (cur.getD (offset + 5) 0).toNat = byteAt cur (offset + 5) := rfl
  obtain ⟨r, hr⟩ := value_psidRatio t (byteAt cur (offset + 5)) d
  obtain ⟨b, hb⟩ := hlast.exists
  unfold readPortParams
  rw [Logged.clean_bind_of (hbyte 4 (by decide)) (hget 4 (by decide)),
    Logged.clean_bind_of (hbyte 5 (by decide)) (hget 5 (by decide)), hlen, Logged.clean_bind]
  simp only [hr, Option.mem_some_iff, forall_eq', Logged.clean_bind_of hlast hb,
    Logged.clean_bind, clean_shiftRight, Logged.clean_pure, implies_true, and_true]
  constructor
  · intro hc
    omega
  · intro h16
    refine ⟨?_, by omega⟩
    unfold psidRatio
    split
    · rw [clean_shiftLeft]
      omega
    · exact Logged.clean_pure _

theorem clean_parsePortParams {t : Target} {cur : List UInt8} {offset optLen : Nat} {d : MaptData}
    (h : optLen ≤ cur.length) (hroom : offset + 8 ≤ optLen) :
    (parsePortParams t cur offset optLen d).Clean Access.Legal ↔
      (HasPortParams cur offset → byteAt cur (offset + 5) ≤ 16) := by
  have hheader : (readBytes cur offset 4 optLen).Clean Access.Legal :=
    (clean_readBytes h (by omega)).mpr (by omega)
  have hvalue : (readBytes cur offset 4 optLen).value = some ((cur.drop offset).take 4) := by
    rw [value_readBytes, if_pos (by omega)]
  unfold parsePortParams
  rw [Logged.clean_bind_of hheader hvalue]
  simp only [ntohs_take (show 0 < 4 by decide) (show 1 < 4 by decide),
    ntohs_take (show 2 < 4 by decide) (show 3 < 4 by decide), Nat.add_zero]
  by_cases hpp : HasPortParams cur offset
  · have hif := hpp
    unfold HasPortParams at hif
    rw [if_pos hif, clean_readPortParams h hroom]
    simp [hpp]
  · have hif := hpp
    unfold HasPortParams at hif
    rw [if_neg hif]
    simp [hpp]

theorem clean_parseRule {inetNtop : List UInt8 → String} {t : Target} {cur : List UInt8}
    {optLen : Nat} {d : MaptData} (h : optLen ≤ cur.length) :
    (parseRule inetNtop t cur optLen d).Clean Access.Legal ↔ RuleFits cur optLen := by
  by_cases hholds : Holds cur optLen
  · obtain ⟨h8, hn, h24⟩ := hholds
    have hvalue : (readRule t cur optLen).value = some (ruleAt cur) :=
      value_readRule (by omega) (by omega) h24
    have hratio : ∃ r, (shiftLeft t 1 ((ruleAt cur).eaLen.toNat -
        (32 - ((ruleAt cur).prefix4Len.toNat : Int)))).value = some r := ⟨_, rfl⟩
    obtain ⟨r, hr⟩ := hratio
    have hea : (ruleAt cur).eaLen.toNat = byteAt cur 1 := rfl
    have h4 : (ruleAt cur).prefix4Len.toNat = byteAt cur 2 := rfl
    have h6 : (ruleAt cur).prefix6Len.toNat = byteAt cur 7 := rfl
    unfold parseRule
    rw [Logged.clean_bind_of ((clean_readRule h).mpr ⟨h8, hn, h24⟩) hvalue, Logged.clean_bind,
      clean_shiftLeft, hr]
    simp only [Option.mem_some_iff, forall_eq', hea, h4, h6]
    constructor
    · intro hc
      refine ⟨⟨h8, hn, h24⟩, by omega, fun hpp => ?_⟩
      have hc := hc.2
      rw [if_pos hpp.1, clean_parsePortParams h (bytesLeftOut_eq hn hpp.1)] at hc
      exact hc hpp.2
    · intro hfits
      have hlens := hfits.ratio
      refine ⟨by omega, ?_⟩
      split
      · next hleft =>
        rw [clean_parsePortParams h (bytesLeftOut_eq hn hleft)]
        exact fun hpp => hfits.psid ⟨hleft, hpp⟩
      · exact Logged.clean_pure _
  · constructor
    · intro hc
      exact absurd ((clean_readRule h).mp (Logged.clean_bind.mp hc).1) hholds
    · intro hfits
      exact absurd hfits.holds hholds

theorem clean_parseDmr {inetNtop : List UInt8 → String} {cur : List UInt8} {optLen : Nat}
    {d : MaptData} (h : optLen ≤ cur.length) :
    (parseDmr inetNtop cur optLen d).Clean Access.Legal ↔ DmrFits cur optLen := by
  unfold parseDmr DmrFits
  by_cases h1 : 1 ≤ optLen
  · have hget : (readByte cur 0 optLen).value = some (cur.getD 0 0) := getElem?_eq_getD (by omega)
    have hlen : (cur.getD 0 0).toNat = byteAt cur 0 := rfl
    rw [Logged.clean_bind_of ((clean_readByte h).mpr (by omega)) hget, hlen, Logged.clean_bind,
      clean_readBytes h h1]
    refine and_congr_right fun hn => ?_
    rw [value_readBytes, if_pos (by omega)]
    simp [Logged.clean_bind, clean_copyInto]
  · constructor
    · intro hc
      have := (clean_readByte h).mp (Logged.clean_bind.mp hc).1
      omega
    · intro hc
      omega

theorem clean_parseOption {inetNtop : List UInt8 → String} {t : Target} {o : Found} {d : MaptData}
    (h : o.len ≤ o.cur.length) :
    (parseOption inetNtop t o d).Clean Access.Legal ↔ Fits o := by
  unfold parseOption Fits
  by_cases hrule : o.type = optionRule
  · have hdmr : o.type ≠ optionDmr := by rw [hrule]; decide
    rw [if_pos hrule, clean_parseRule h]
    exact ⟨fun hr => ⟨fun _ => hr, fun hd => absurd hd hdmr⟩, fun hf => hf.1 hrule⟩
  · rw [if_neg hrule]
    by_cases hdmr : o.type = optionDmr
    · rw [if_pos hdmr, clean_parseDmr h]
      exact ⟨fun hd => ⟨fun hr => absurd hr hrule, fun _ => hd⟩, fun hf => hf.2 hdmr⟩
    · rw [if_neg hdmr]
      simp [hrule, hdmr]

/-! ## A whole buffer -/

theorem clean_parseOptions {inetNtop : List UInt8 → String} {t : Target} {os : List Found}
    {d : MaptData} (h : ∀ o ∈ os, o.len ≤ o.cur.length) :
    (parseOptions inetNtop t os d).Clean Access.Legal ↔ ∀ o ∈ os, Fits o := by
  induction os generalizing d with
  | nil => simp
  | cons o os ih =>
    have hos (d : MaptData) := ih (d := d) fun o' ho' => h o' (by simp [ho'])
    rw [parseOptions_cons, Logged.clean_bind, clean_parseOption (h o (by simp)),
      List.forall_mem_cons]
    refine and_congr_right fun ho => ?_
    have hclean : (parseOption inetNtop t o d).Clean Access.Legal :=
      (clean_parseOption (h o (by simp))).mpr ho
    obtain ⟨d', hd'⟩ := hclean.exists
    simp [hd', hos]

/-- A buffer with an option that is longer than what is left of it, or that cannot be read. -/
def Malformed (buf : List UInt8) (len : Nat) : Prop :=
  (walk len buf).2 = .overrun ∨ ∃ o ∈ (walk len buf).1, ¬ Fits o

/-- The parser goes well, and reports malformed options, when it looks at none or can read those
that it comes upon. -/
theorem clean_parseResponse {inetNtop : List UInt8 → String} {t : Target} {buf : List UInt8} {len : Nat}
    {d : MaptData} (h2 : 2 ≤ buf.length) (hlen : len ≤ buf.length) :
    ((parseResponse inetNtop t buf len d).Clean Access.Legal ∧
        (Malformed buf len →
          ∀ r ∈ (parseResponse inetNtop t buf len d).value, r.1 = .failure)) ↔
      (byteAt buf 1 = 0 ∨ ∀ o ∈ (walk len buf).1, Fits o) := by
  have hbyte : (readByte buf 1 buf.length).Clean Access.Legal :=
    (clean_readByte (Nat.le_refl _)).mpr (by omega)
  have hget : (readByte buf 1 buf.length).value = some (buf.getD 1 0) :=
    getElem?_eq_getD (by omega)
  have hzero : buf.getD 1 0 = 0 ↔ byteAt buf 1 = 0 := by
    rw [byteAt, ← UInt8.toNat_inj]
    rfl
  obtain ⟨hvalue, hclean⟩ := parseLoop_walk inetNtop t len buf d hlen
  rw [clean_parseOptions (len_le_of_mem_walk hlen)] at hclean
  unfold parseResponse
  rw [Logged.clean_bind_of hbyte hget, Logged.value_bind, hget, Option.bind_some]
  by_cases h0 : buf.getD 1 0 = 0
  · rw [if_pos h0]
    simp [hzero.mp h0]
  · rw [if_neg h0, Logged.clean_bind, hclean]
    have hne : ¬ byteAt buf 1 = 0 := mt hzero.mpr h0
    simp only [hne, false_or]
    constructor
    · intro hc
      exact hc.1.1
    · intro hfits
      refine ⟨⟨hfits, fun r _ => ?_⟩, fun hmal r hr => ?_⟩
      · split <;> exact Logged.clean_pure _
      · obtain hover | ⟨o, ho, hno⟩ := hmal
        · rw [Logged.value_bind, hvalue, hover, Option.mem_def, Option.bind_eq_some_iff] at hr
          obtain ⟨r', hr', hr⟩ := hr
          obtain ⟨d', -, rfl⟩ := Option.map_eq_some_iff.mp hr'
          split at hr
          · rw [Logged.value_pure, Option.some.injEq] at hr
            rw [← hr]
          · rw [Logged.value_pure, Option.some.injEq] at hr
            rw [← hr]
            rfl
        · exact absurd (hfits o ho) hno

theorem length_hexStream {p bytes : List UInt8} (h : hexStream p = some bytes) :
    bytes.length + 1 ≤ p.length := by
  fun_induction hexStream p generalizing bytes with
  | case1 c₁ c₂ rest hz =>
    obtain rfl := Option.some.inj h
    simp
  | case2 c₂ c₃ rest hz ih | case4 c₁ c₂ rest hz hc ih =>
    obtain ⟨b, hb, rfl⟩ := Option.map_eq_some_iff.mp h
    have := ih hb
    simp only [List.length_cons]
    omega
  | case5 =>
    obtain rfl := Option.some.inj h
    simp
  | case3 | case6 => simp at h

@[simp] theorem length_cutQuote (n : Nat) (buf : List UInt8) :
    (cutQuote n buf).length = buf.length := by
  unfold cutQuote
  split <;> simp

/-- The stream that the parser is handed lies in the buffer of the text, which has a NUL
behind it and room for two bytes. -/
theorem convertStringToHexStream_fits {text buf : List UInt8} {len : Nat}
    (h : convertStringToHexStream text = some (buf, len)) : len ≤ buf.length ∧ 2 ≤ buf.length := by
  unfold convertStringToHexStream at h
  simp only at h
  by_cases hn : textStart text + strlen (text.drop (textStart text)) = 0
  · rw [if_pos hn] at h
    contradiction
  · rw [if_neg hn] at h
    obtain ⟨bytes, hbytes, heq⟩ := Option.map_eq_some_iff.mp h
    have hlen := length_hexStream hbytes
    obtain ⟨rfl, rfl⟩ := Prod.mk.inj heq
    simp only [List.length_drop, length_cutQuote] at hlen
    simp only [List.length_append, List.length_cons, List.length_drop, length_cutQuote]
    have hcount := Nat.mod_le bytes.length 65536
    refine ⟨by omega, ?_⟩
    -- a text of one byte would have to be a quote, and no character is left behind it
    by_contra hlt
    obtain ⟨c, rfl⟩ : ∃ c, text = [c] := List.length_eq_one_iff.mp (by omega)
    by_cases hq : c = 39
    · simp [textStart, hq] at hlen
    · have hstart : textStart [c] = 0 := by simp [textStart, hq]
      have hc : c ≠ 0 := by
        rintro rfl
        exact hn rfl
      have hcut (n : Nat) : cutQuote n [c] = [c] := by
        unfold cutQuote
        split
        · next h39 =>
          have := List.mem_of_getElem? h39
          simp_all
        · rfl
      rw [hstart, hcut] at hbytes
      simp [hexStream, hc] at hbytes

/-- The parser of option 95 stays inside of each option and of the buffer, of its own buffers
and of the shifts that are defined, and reports malformed options, exactly when it looks at none
or the options that come before one that is too long can be read. -/
theorem parse_safe_iff {inetNtop : List UInt8 → String} {t : Target} {text buf : List UInt8}
    {len : Nat} {d : MaptData} (h : convertStringToHexStream text = some (buf, len)) :
    ((parseResponse inetNtop t buf len d).Clean Access.Legal ∧
        (Malformed buf len →
          ∀ r ∈ (parseResponse inetNtop t buf len d).value, r.1 = .failure)) ↔
      (byteAt buf 1 = 0 ∨ ∀ o ∈ (walk len buf).1, Fits o) := by
  obtain ⟨hlen, h2⟩ := convertStringToHexStream_fits h
  exact clean_parseResponse h2 hlen

/-- The text `00590000` in its buffer: a rule without any bytes. -/
def emptyRuleText : List UInt8 := [48, 48, 53, 57, 48, 48, 48, 48] ++ .replicate 248 0

/-- The stream in the same buffer. -/
def emptyRule : List UInt8 := [0, 89, 0, 0, 0, 48, 48, 48] ++ .replicate 248 0

theorem parse_safe_emptyRule :
    ((parseResponse (fun _ => "") ⟨fun _ _ => 0, fun _ _ => 0⟩ emptyRule 4 {}).Clean Access.Legal ∧
        (Malformed emptyRule 4 → ∀ r ∈ (parseResponse (fun _ => "") ⟨fun _ _ => 0, fun _ _ => 0⟩
          emptyRule 4 {}).value, r.1 = .failure)) ↔
      (byteAt emptyRule 1 = 0 ∨ ∀ o ∈ (walk 4 emptyRule).1, Fits o) :=
  have hbuf : convertStringToHexStream emptyRuleText = some (emptyRule, 4) := by decide +kernel
  parse_safe_iff hbuf

/-- It is read past its end. -/
theorem emptyRule_unsafe :
    convertStringToHexStream emptyRuleText = some (emptyRule, 4) ∧
      ¬ ((parseResponse (fun _ => "") ⟨fun _ _ => 0, fun _ _ => 0⟩ emptyRule 4 {}).Clean
          Access.Legal ∧
        (Malformed emptyRule 4 → ∀ r ∈ (parseResponse (fun _ => "") ⟨fun _ _ => 0, fun _ _ => 0⟩
          emptyRule 4 {}).value, r.1 = .failure)) := by
  refine ⟨by decide +kernel, fun h => ?_⟩
  have hread : ¬ (parseResponse (fun _ => "") ⟨fun _ _ => 0, fun _ _ => 0⟩ emptyRule 4 {}).Clean
      Access.Legal := by decide +kernel
  exact hread h.1

end Mapt

end WanManager
