import WanManager.MaptAgreement

/-! # The domain of the bit extraction

When the suffix and the PSID are taken out of bytes of the address by shifts that are defined. The
lengths come from the option, and only the order of two of them is looked at. -/

namespace WanManager
open Wire

namespace Mapt

/-- The extraction is refused, or stays inside of the address and of the shifts that are defined
and finds a length for the PSID. -/
def Stays (inet : Inet) (t : Target) (p : MaptParams) : Prop :=
  let run := calculatePsidAndV4Index inet t p.pdIPv6Prefix p.v6Len p.iapdPrefixLen p.v4Len
  run.value = some none ∨
    run.Clean Access.Legal ∧ ∃ r, run.value = some (some r) ∧ 0 ≤ r.psidLen

/-- Lengths that the extraction can work with: there are no more EA bits than are loaded, all of
them in the address; they hold the suffix, which is not the whole address, and fewer than 32 bits
behind it; and the suffix is within 31 bits of the end of what is loaded. -/
structure Extracts (v6PrefixLen iapdPrefixLen v4PrefixLen : Nat) : Prop where
  loaded : iapdPrefixLen - v6PrefixLen ≤ 48
  inside : v6PrefixLen / 8 +
    Mapt.loaded (eaByteCount (iapdPrefixLen - v6PrefixLen : Nat)) (v6PrefixLen % 8) ≤ 16
  suffix : 1 ≤ v4PrefixLen ∧ v4PrefixLen ≤ 32
  room : 32 - v4PrefixLen ≤ iapdPrefixLen - v6PrefixLen
  psid : iapdPrefixLen - v6PrefixLen - (32 - v4PrefixLen) < 32
  reach : eaTop v6PrefixLen (iapdPrefixLen - v6PrefixLen) - (32 - v4PrefixLen) < 32

theorem clean_loadBytes {a : List UInt8} {start n : Nat} (ha : a.length = 16) :
    (loadBytes a start n).Clean Access.Legal ↔ n = 0 ∨ start + n ≤ 16 := by
  unfold loadBytes
  split
  · next h => simp [h]
  · next h =>
    rw [Logged.clean_bind, readBytes, Logged.clean_access]
    simp [Access.Legal, h, ha]

theorem clean_loadLast {a : List UInt8} {i shift : Nat} {w : BitVec 64} (ha : a.length = 16) :
    (loadLast a i shift w).Clean Access.Legal ↔ (shift ≠ 0 → i < 16) := by
  unfold loadLast
  split
  · next h =>
    rw [Logged.clean_bind, clean_readByte (by omega)]
    simp [h]
  · next h => simp [h]

theorem clean_getMAPTbits {t : Target} {v : Nat} {pos num : Int} :
    (getMAPTbits t v pos num).Clean Access.Legal ↔
      (0 ≤ pos + 1 - num ∧ pos + 1 - num < 32) ∧ 0 ≤ num ∧ num < 32 := by
  unfold getMAPTbits
  refine (Logged.clean_bind_iff fun bits _ => ?_).trans (and_congr_left' clean_shiftRight)
  rw [Logged.clean_bind, clean_shiftLeft]
  simp

/-- The accesses of a run that is not refused. -/
theorem clean_calculate {inet : Inet} {t : Target} {pd : String} {a : List UInt8}
    {v6 iapd v4 : Nat} (hpton : inet.pton pd = some a) (hlt : v6 < iapd) :
    (calculatePsidAndV4Index inet t pd v6 iapd v4).Clean Access.Legal ↔
      (eaByteCount (iapd - v6) = 0 ∨ v6 / 8 + eaByteCount (iapd - v6) ≤ 16) ∧
      (v6 % 8 ≠ 0 → v6 / 8 + eaByteCount (iapd - v6) < 16) ∧
      ((0 ≤ eaStartPos (eaByteCount (iapd - v6)) (v6 % 8) + 1 - (32 - v4) ∧
        eaStartPos (eaByteCount (iapd - v6)) (v6 % 8) + 1 - (32 - v4) < 32) ∧
        0 ≤ 32 - (v4 : Int) ∧ 32 - (v4 : Int) < 32) ∧
      (0 ≤ eaStartPos (eaByteCount (iapd - v6)) (v6 % 8) - (32 - v4) + 1 -
          (iapd - v6 - (32 - v4)) ∧
        eaStartPos (eaByteCount (iapd - v6)) (v6 % 8) - (32 - v4) + 1 -
          (iapd - v6 - (32 - v4)) < 32) ∧
        0 ≤ (iapd : Int) - v6 - (32 - v4) ∧ (iapd : Int) - v6 - (32 - v4) < 32 := by
  have ha := inet.length_pton pd a hpton
  unfold calculatePsidAndV4Index
  rw [if_neg (by omega), hpton]
  refine (Logged.clean_bind_iff fun w _ => ?_).trans (and_congr_left' (clean_loadBytes ha))
  refine (Logged.clean_bind_iff fun w _ => ?_).trans (and_congr_left' (clean_loadLast ha))
  refine (Logged.clean_bind_iff fun index _ => ?_).trans (and_congr_left' clean_getMAPTbits)
  rw [Logged.clean_bind, clean_getMAPTbits]
  simp

/-- The accesses of a run are legal for the lengths that it can work with. -/
theorem clean_calculate_iff {inet : Inet} {t : Target} {pd : String} {v6 iapd v4 : Nat}
    (hpton : (inet.pton pd).isSome) (hlt : v6 < iapd) :
    (calculatePsidAndV4Index inet t pd v6 iapd v4).Clean Access.Legal ↔ Extracts v6 iapd v4 := by
  obtain ⟨a, ha⟩ := Option.isSome_iff_exists.mp hpton
  obtain ⟨ea, hea⟩ : ∃ ea, iapd = v6 + ea := ⟨iapd - v6, by omega⟩
  have hcast : (iapd : Int) - v6 = ea := by omega
  have hnat : iapd - v6 = ea := by omega
  rw [clean_calculate ha hlt, hcast]
  by_cases h48 : ea ≤ 48
  · obtain ⟨hle, hle8, hn1, hn6⟩ := eaByteCount_spec h48 (by omega)
    obtain ⟨htop, htop15, hstart⟩ : ea ≤ eaTop v6 ea ∧ eaTop v6 ea < ea + 15 ∧
      eaStartPos (eaByteCount ea) (v6 % 8) + 1 = eaTop v6 ea := eaTop_spec h48 (by omega)
    have hin : (eaByteCount ea = 0 ∨ v6 / 8 + eaByteCount ea ≤ 16) ∧
        (v6 % 8 ≠ 0 → v6 / 8 + eaByteCount ea < 16) ↔
          v6 / 8 + Mapt.loaded (eaByteCount ea) (v6 % 8) ≤ 16 := by
      unfold Mapt.loaded
      split <;> omega
    constructor
    · rintro ⟨h1, h2, hindex, hpsid⟩
      refine ⟨by omega, ?_, by omega, by omega, by omega, ?_⟩
      · rw [hnat]
        exact hin.mp ⟨h1, h2⟩
      · rw [hnat]
        omega
    · rintro ⟨-, hinside, hsuffix, hroom, hpsid, hreach⟩
      rw [hnat] at hinside hroom hpsid hreach
      obtain ⟨h1, h2⟩ := hin.mpr hinside
      exact ⟨h1, h2, by omega, by omega⟩
  · -- no byte is loaded, so that the position of the PSID lies below all of them
    have hn : eaByteCount ea = 0 := by
      unfold eaByteCount
      split_ifs <;> omega
    have hpos : eaStartPos (eaByteCount ea) (v6 % 8) ≤ 7 := by
      rw [hn]
      unfold eaStartPos
      split <;> omega
    constructor
    · intro hc
      omega
    · intro hex
      have := hex.loaded
      omega

/-- A run that is not refused yields what the EA bits leave for the PSID. -/
theorem psidLen_of_value {inet : Inet} {t : Target} {pd : String} {v6 iapd v4 : Nat}
    {o : Option PsidAndV4Index} (hpton : (inet.pton pd).isSome) (hlt : v6 < iapd)
    (h : (calculatePsidAndV4Index inet t pd v6 iapd v4).value = some o) :
    ∃ r, o = some r ∧ r.psidLen = iapd - v6 - (32 - (v4 : Int)) := by
  obtain ⟨a, ha⟩ := Option.isSome_iff_exists.mp hpton
  unfold calculatePsidAndV4Index at h
  rw [if_neg (by omega), ha] at h
  obtain ⟨w, -, h⟩ := Logged.of_value_bind h
  obtain ⟨w', -, h⟩ := Logged.of_value_bind h
  obtain ⟨index, -, h⟩ := Logged.of_value_bind h
  obtain ⟨psid, -, h⟩ := Logged.of_value_bind h
  obtain rfl := Option.some.inj h
  exact ⟨_, rfl, rfl⟩

/-- What the extraction is passed stays in its domain exactly when it is refused, because the
delegated prefix is not below the rule's or is no address, or the lengths are those that it can
work with. -/
theorem stays_iff {inet : Inet} {t : Target} {p : MaptParams} :
    Stays inet t p ↔ p.iapdPrefixLen ≤ p.v6Len ∨ inet.pton p.pdIPv6Prefix = none ∨
      Extracts p.v6Len p.iapdPrefixLen p.v4Len := by
  by_cases hle : p.iapdPrefixLen ≤ p.v6Len
  · simp [Stays, calculatePsidAndV4Index, hle]
  · cases hpton : inet.pton p.pdIPv6Prefix with
    | none => simp [Stays, calculatePsidAndV4Index, hle, hpton]
    | some a =>
      have hknown : (inet.pton p.pdIPv6Prefix).isSome := by rw [hpton]; rfl
      have hlt : p.v6Len < p.iapdPrefixLen := by omega
      have hclean := @clean_calculate_iff inet t p.pdIPv6Prefix _ _ p.v4Len hknown hlt
      simp only [hle, reduceCtorEq, false_or]
      constructor
      · rintro (hrefused | ⟨hc, -⟩)
        · obtain ⟨r, hr, -⟩ := psidLen_of_value hknown hlt hrefused
          simp at hr
        · exact hclean.mp hc
      · intro hex
        have hc := hclean.mpr hex
        obtain ⟨o, ho⟩ := hc.exists
        obtain ⟨r, rfl, hlen⟩ := psidLen_of_value hknown hlt ho
        have hroom := hex.room
        have hsuffix := hex.suffix
        exact .inr ⟨hc, r, ho, by omega⟩

/-- A rule with more EA bits than the code loads is accepted by the parser, and its bits are taken
out by shifts that are not defined. -/
theorem manyEaBits_leave : ∃ p, (maptParseOpt95Response oneAddress ⟨fun _ _ => 0, fun _ _ => 0⟩
      "2001:db8:4000::/64".toList (payloadText (payload 56 4 1))).value = some (some p) ∧
    ¬ (0 < p.psidLen ∧ p.eaLen = 0) ∧ ¬ Stays oneAddress ⟨fun _ _ => 0, fun _ _ => 0⟩ p := by
  have hrun : ((maptParseOpt95Response oneAddress ⟨fun _ _ => 0, fun _ _ => 0⟩
      "2001:db8:4000::/64".toList (payloadText (payload 56 4 1))).value.bind id).map
        (fun p => (p.eaLen, p.v4Len, p.v6Len, p.iapdPrefixLen)) = some (56, 4, 8, 64) := by
    decide +kernel
  obtain ⟨p, hp, hlens⟩ := Option.map_eq_some_iff.mp hrun
  obtain ⟨_, hp, rfl⟩ := Option.bind_eq_some_iff.mp hp
  simp only [Prod.mk.injEq] at hlens
  obtain ⟨hea, h4, h6, hiapd⟩ := hlens
  have hlt : p.v6Len < p.iapdPrefixLen := by omega
  refine ⟨p, hp, by omega, ?_⟩
  rintro (hrefused | ⟨hc, -⟩)
  · obtain ⟨r, hr, -⟩ := psidLen_of_value rfl hlt hrefused
    simp at hr
  · have := ((clean_calculate_iff rfl hlt).mp hc).loaded
    omega

end Mapt

end WanManager
