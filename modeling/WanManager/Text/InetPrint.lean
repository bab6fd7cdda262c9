import WanManager.Text.Inet

/-! # IPv6 addresses printed

What `inet_ntop` prints. The first of the longest runs of zero groups is left out when it has more
than one group, and the last two groups are a dotted quad when nothing but zeros, or zeros and
`ffff`, stand before them. -/

namespace WanManager.Text

/-! ## Groups -/

/-- What `%x` prints. -/
abbrev hexadecimal (n : Nat) : List Char := Nat.toDigits 16 n

theorem hexDigit_digitChar {d : Nat} (h : d < 16) : hexDigit d.digitChar = some d := by
  have hall : ∀ d < 16, hexDigit (Nat.digitChar d) = some d := by decide
  exact hall d h

theorem hexNumber_append (digits : List Char) (c : Char) (n : Nat) :
    hexNumber (digits ++ [c]) n =
      (hexNumber digits n).bind fun m => (hexDigit c).bind fun d => some (16 * m + d) := by
  induction digits generalizing n with
  | nil => rfl
  | cons c' digits ih =>
    rw [List.cons_append, hexNumber, hexNumber, Option.bind_assoc]
    exact congrArg _ (funext fun d => ih _)

theorem hexNumber_hexadecimal (n : Nat) : hexNumber (hexadecimal n) 0 = some n := by
  induction n using Nat.strongRecOn with
  | ind n ih =>
    rw [hexadecimal, Nat.toDigits_eq_if (by decide)]
    split
    · rename_i hlt
      rw [hexNumber, hexDigit_digitChar hlt, Option.bind_some, hexNumber, Nat.mul_zero,
        Nat.zero_add]
    · rename_i hge
      rw [hexNumber_append, ih (n / 16) (by omega), Option.bind_some,
        hexDigit_digitChar (Nat.mod_lt _ (by decide)), Option.bind_some]
      congr 1
      omega

/-- A group is read from what is printed of it. -/
theorem hexGroup_hexadecimal (g : UInt16) : hexGroup (hexadecimal g.toNat) = some g := by
  have hlt := g.toNat_lt
  have hlength : (hexadecimal g.toNat).length ≤ 4 := by
    rw [hexadecimal, Nat.length_toDigits_le_iff (by decide) (by decide)]
    exact hlt
  rw [hexGroup, if_pos ⟨Nat.toDigits_ne_nil, hlength⟩, hexNumber_hexadecimal, Option.map_some,
    UInt16.ofNat_toNat]

def groupTexts (groups : List UInt16) : List (List Char) := groups.map fun g => hexadecimal g.toNat

theorem hexGroups_groupTexts (groups : List UInt16) :
    hexGroups (groupTexts groups) = some groups := by
  induction groups with
  | nil => rfl
  | cons g groups ih =>
    rw [groupTexts] at ih
    rw [groupTexts, List.map_cons, hexGroups, hexGroup_hexadecimal, Option.bind_some, ih,
      Option.map_some]

/-! ## Runs of zeros -/

/-- Where the first of the longest runs of zeros begins, and how many groups it has. -/
def zeroRun (groups : List UInt16) : Nat × Nat :=
  (List.range groups.length).foldl (fun best i =>
    let len := ((groups.drop i).takeWhile (· = 0)).length
    if best.2 < len then (i, len) else best) (0, 0)

/-- There are only zeros in the run. -/
theorem zeroRun_spec (groups : List UInt16) :
    (groups.drop (zeroRun groups).1).take (zeroRun groups).2 =
      List.replicate (zeroRun groups).2 0 := by
  suffices h : ∀ (is : List Nat) (best : Nat × Nat),
      (groups.drop best.1).take best.2 = List.replicate best.2 0 →
      let run := is.foldl (fun best i =>
        let len := ((groups.drop i).takeWhile (· = 0)).length
        if best.2 < len then (i, len) else best) best
      (groups.drop run.1).take run.2 = List.replicate run.2 0 from h _ _ rfl
  intro is
  induction is with
  | nil => exact fun _ h => h
  | cons i is ih =>
    intro best hbest
    rw [List.foldl_cons]
    dsimp only
    split
    · apply ih
      dsimp only
      have htake : (groups.drop i).take ((groups.drop i).takeWhile (· = 0)).length =
          (groups.drop i).takeWhile (· = 0) :=
        (List.prefix_iff_eq_take.mp (List.takeWhile_prefix _)).symm
      rw [htake, List.eq_replicate_iff]
      refine ⟨rfl, fun g hg => ?_⟩
      simpa using List.all_eq_true.mp List.all_takeWhile g hg
    · exact ih _ hbest

/-- The groups around the run. -/
theorem groups_eq (groups : List UInt16) :
    groups.take (zeroRun groups).1 ++ List.replicate (zeroRun groups).2 0 ++
      groups.drop ((zeroRun groups).1 + (zeroRun groups).2) = groups := by
  rw [← zeroRun_spec, List.append_assoc, ← List.drop_drop, List.take_append_drop,
    List.take_append_drop]

/-! ## Addresses -/

/-- The dotted quad of two groups. -/
def quadOf (g h : UInt16) : Ipv4 :=
  ⟨UInt8.ofNat (g.toNat / 256), UInt8.ofNat g.toNat, UInt8.ofNat (h.toNat / 256),
    UInt8.ofNat h.toNat⟩

theorem groups_quadOf (g h : UInt16) : (quadOf g h).groups = [g, h] := by
  have hhalves : ∀ g : UInt16,
      (UInt8.ofNat (g.toNat / 256)).toUInt16 * 256 + (UInt8.ofNat g.toNat).toUInt16 = g := by
    intro g
    have hlt := g.toNat_lt
    apply UInt16.toNat_inj.mp
    simp
    omega
  simp only [Ipv4.groups, quadOf, hhalves]

/-- What follows the double colon; the last groups may be a dotted quad. -/
def tailTexts (run : Nat × Nat) (back : List UInt16) : List (List Char) :=
  match run, back with
  | (0, _), [g, h] => [(quadOf g h).text]
  | (0, _), [0xffff, g, h] => [hexadecimal 0xffff, (quadOf g h).text]
  | _, back => groupTexts back

/-- `inet_ntop` for `AF_INET6` -/
def inetNtop6 (ip : Ipv6) : List Char :=
  let run := zeroRun ip.groups
  if run.2 < 2 then [':'].intercalate (groupTexts ip.groups)
  else
    [':'].intercalate (groupTexts (ip.groups.take run.1)) ++ ':' :: ':' ::
      [':'].intercalate (tailTexts run (ip.groups.drop (run.1 + run.2)))

example : inetNtop6 ⟨[0x2001, 0xdb8, 0, 4, 0, 0, 0, 0], rfl⟩ = "2001:db8:0:4::".toList ∧
    inetNtop6 ⟨[0, 0, 0, 0, 0, 0xffff, 0xc000, 0x201], rfl⟩ = "::ffff:192.0.2.1".toList ∧
    inetNtop6 Ipv6.unspecified = "::".toList := by decide +kernel

theorem isPiece_quad (ip : Ipv4) : ip.text ≠ [] ∧ ':' ∉ ip.text := by
  have hdecimal : ∀ n, ':' ∉ decimal n := fun n h => absurd (isDigit_decimal _ h) (by decide)
  simp [Ipv4.text, hdecimal]

theorem hexNumber_eq_none {c : Char} (hc : hexDigit c = none) {digits : List Char}
    (h : c ∈ digits) (n : Nat) : hexNumber digits n = none := by
  induction digits generalizing n with
  | nil => cases h
  | cons c' digits ih =>
    rw [hexNumber]
    obtain rfl | h := List.mem_cons.mp h
    · rw [hc, Option.bind_none]
    · rw [Option.bind_eq_none_iff]
      exact fun d _ => ih h _

theorem hexGroup_quad (ip : Ipv4) : hexGroup ip.text = none := by
  have hdot : '.' ∈ ip.text := by simp [Ipv4.text]
  rw [hexGroup, hexNumber_eq_none (by decide) hdot, Option.map_none, ite_self]

/-- What follows the double colon is read as the groups. -/
theorem lastGroups_tailTexts (run : Nat × Nat) (back : List UInt16) :
    (∀ piece ∈ tailTexts run back, piece ≠ [] ∧ ':' ∉ piece) ∧
      lastGroups (tailTexts run back) = some back := by
  have hquad : ∀ g h, lastGroups [(quadOf g h).text] = some [g, h] := by
    intro g h
    rw [lastGroups, hexGroup_quad]
    dsimp only
    rw [quad_eq_some.mpr rfl, Option.map_some, groups_quadOf]
  unfold tailTexts
  split
  · rename_i g h
    exact ⟨by simpa using isPiece_quad (quadOf g h), hquad g h⟩
  · rename_i g h
    have hffff := hexGroup_hexadecimal 0xffff
    refine ⟨?_, ?_⟩
    · rw [List.forall_mem_cons, List.forall_mem_singleton]
      exact ⟨hexGroup_digits hffff, isPiece_quad (quadOf g h)⟩
    · rw [lastGroups]
      · exact Option.bind_eq_some_iff.mpr ⟨0xffff, hffff, by rw [hquad]; rfl⟩
      · exact List.cons_ne_nil _ _
  · have hread := hexGroups_groupTexts back
    exact ⟨hexGroups_digits hread, lastGroups_of_hexGroups hread⟩

/-- An address is read from what is printed of it. -/
theorem readIpv6_inetNtop6 (ip : Ipv6) : readIpv6 (inetNtop6 ip) = some ip := by
  have heq := groups_eq ip.groups
  have hlength := congrArg List.length heq
  rw [inetNtop6]
  split
  · rw [readIpv6_full (hexGroups_groupTexts _), ofGroups_eq_some]
  · rename_i hrun
    obtain ⟨hpieces, hlast⟩ := lastGroups_tailTexts (zeroRun ip.groups)
      (ip.groups.drop ((zeroRun ip.groups).1 + (zeroRun ip.groups).2))
    rw [readIpv6_tail (hexGroups_groupTexts _) hpieces hlast, padGroups]
    rw [List.length_append, List.length_append, List.length_replicate, ip.length_eq] at hlength
    rw [if_pos (by omega), ofGroups_eq_some]
    rw [show 8 - ((ip.groups.take (zeroRun ip.groups).1).length + (ip.groups.drop
      ((zeroRun ip.groups).1 + (zeroRun ip.groups).2)).length) = (zeroRun ip.groups).2 by omega]
    exact heq.symm

end WanManager.Text
