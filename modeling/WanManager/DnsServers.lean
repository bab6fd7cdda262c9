import Mathlib.Data.List.TakeWhile
import WanManager.ResolvConf
import WanManager.Text.Inet

/-! # The name servers that are published

Which texts `IsValidDnsServer` takes for a name server, and when a change of the published servers
restarts the DHCP server of the LAN. -/

namespace WanManager.ResolvConf

/-- `inet_pton` -/
def inetPton : AddressFamily → String → Bool
  | .inet, s => (Text.inetPton4 s).isSome
  | .inet6, s => (Text.inetPton6 s).isSome

/-! ## IPv4 -/

section Ipv4

open Text

variable {s : String} {ip : Ipv4}

theorem startsWith_eq {start : String} (h : inetPton4 s = some ip) :
    startsWith start s = true ↔ start.toList <+: ip.text := by
  rw [startsWith, List.isPrefixOf_iff_prefix, quad_eq_some.mp h]

theorem startsWith_loopback (h : inetPton4 s = some ip) : startsWith "127" s = true ↔ ip.a = 127 := by
  have htext : "127".toList = decimal (127 : UInt8).toNat := by decide
  rw [startsWith_eq h, htext]
  exact decimal_isPrefixOf (by decide) (by simp)

theorem startsWith_linkLocal (h : inetPton4 s = some ip) :
    startsWith "169.254" s = true ↔ ip.a = 169 ∧ ip.b = 254 := by
  have htext : "169.254".toList = decimal (169 : UInt8).toNat ++ '.' :: decimal (254 : UInt8).toNat := by
    decide
  rw [startsWith_eq h, htext, Ipv4.text, decimal_dot_isPrefixOf,
    decimal_isPrefixOf (by decide) (by simp), UInt8.toNat_inj, eq_comm]

theorem eq_text_iff {start : String} {ip' : Ipv4} (h : inetPton4 s = some ip)
    (htext : start.toList = ip'.text) : s = start ↔ ip = ip' := by
  rw [← String.toList_inj, htext, quad_eq_some.mp h, Ipv4.text_inj]

theorem startsWith_broadcast (h : inetPton4 s = some ip) :
    startsWith "255.255.255.255" s = true ↔ ip = ⟨255, 255, 255, 255⟩ := by
  have htext : "255.255.255.255".toList = decimal (255 : UInt8).toNat ++ '.' ::
      (decimal (255 : UInt8).toNat ++ '.' :: (decimal (255 : UInt8).toNat ++ '.' ::
        decimal (255 : UInt8).toNat)) := by decide
  have hlast : decimal (255 : UInt8).toNat <+: decimal ip.d.toNat ↔ ip.d = 255 := by
    have h := @decimal_isPrefixOf 255 ip.d [] (by decide) (by simp)
    rwa [List.append_nil] at h
  obtain ⟨a, b, c, d⟩ := ip
  rw [startsWith_eq h, htext, Ipv4.text]
  simp only [decimal_dot_isPrefixOf, hlast, UInt8.toNat_inj, Ipv4.mk.injEq, @eq_comm _ (255 : UInt8)]

/-- A text is taken for a name server of IPv4 exactly when it is read as an address that is neither
zero nor the broadcast address and is in neither the link-local nor the loopback range. -/
theorem isValidDnsServer_inet (s : String) :
    isValidDnsServer inetPton .inet s = true ↔
      ∃ ip, inetPton4 s = some ip ∧ ip ≠ ⟨0, 0, 0, 0⟩ ∧ ip ≠ ⟨255, 255, 255, 255⟩ ∧
        ¬ (ip.a = 169 ∧ ip.b = 254) ∧ ip.a ≠ 127 := by
  cases hread : inetPton4 s with
  | none => simp [isValidDnsServer, isValidIpAddress, isValidIpv4Address, inetPton, hread]
  | some ip =>
    have hzero : s = "0.0.0.0" ↔ ip = ⟨0, 0, 0, 0⟩ := eq_text_iff hread (by decide)
    have hne : s ≠ "" := by
      rintro rfl
      have hnone : inetPton4 "" = none := by decide +kernel
      rw [hnone] at hread
      cases hread
    simp only [isValidDnsServer, isValidIpAddress, isValidIpv4Address, isZeroIpvxAddress, inetPton, hread,
      Option.isSome_some, Option.some.injEq, exists_eq_left', ne_eq, ← hzero, ← startsWith_broadcast hread,
      ← startsWith_linkLocal hread, ← startsWith_loopback hread]
    simp [hne, and_assoc]

end Ipv4

/-! ## IPv6 -/

section Ipv6

open Text

/-- A text without a slash is an address with the longest prefix. -/
theorem parsePrefixAddress_eq_self {s : String} (hslash : '/' ∉ s.toList) (hlength : s.toList.length < 40) :
    parsePrefixAddress s = some (s, 128) := by
  have hall : ∀ c ∈ s.toList, decide (c ≠ '/') = true := by
    intro c hc
    rw [decide_eq_true_eq]
    rintro rfl
    exact hslash hc
  have haddress : upTo '/' s = s := by
    rw [upTo, List.takeWhile_eq_self_iff.mpr hall, String.ofList_toList]
  have hrest : s.toList.dropWhile (· ≠ '/') = [] := List.dropWhile_eq_nil_iff.mpr hall
  simp only [parsePrefixAddress, haddress, hrest]
  exact if_pos ⟨String.length_toList ▸ hlength, by decide⟩

theorem isZeroIpvxAddress_inet6 {s : String} (hslash : '/' ∉ s.toList) (hne : s ≠ "") :
    isZeroIpvxAddress .inet6 s = true ↔ s = "::" ∨ s = "0:0:0:0:0:0:0:0" := by
  have hlongest : s ≠ "::/128" := by
    rintro rfl
    exact hslash (by decide)
  have hshortest : s ≠ "::/0" := by
    rintro rfl
    exact hslash (by decide)
  simp only [isZeroIpvxAddress, Bool.or_eq_true, beq_iff_eq, hne, hlongest, hshortest, false_or, or_false]
  exact or_comm

/-- The texts of the unspecified address other than the two that are refused are taken for name
servers; so it is kept out exactly when another digit stands in the text, or it is one of the two. -/
theorem isValidDnsServer_inet6 (s : String) (ip : Ipv6) (h : inetPton6 s = some ip) :
    (isValidDnsServer inetPton .inet6 s = true → ip ≠ Ipv6.unspecified) ↔
      (∃ c ∈ s.toList, isNought c = false) ∨ s = "::" ∨ s = "0:0:0:0:0:0:0:0" := by
  obtain ⟨hnought, hlength⟩ := readIpv6_unspecified h
  by_cases hall : ∀ c ∈ s.toList, isNought c = true
  · have hip := hnought.mpr hall
    have hslash : '/' ∉ s.toList := fun hc => absurd (hall _ hc) (by decide)
    have hne : s ≠ "" := by
      rintro rfl
      have hnone : inetPton6 "" = none := by decide +kernel
      rw [hnone] at h
      cases h
    have hother : ¬ ∃ c ∈ s.toList, isNought c = false := by
      rintro ⟨c, hc, hfalse⟩
      rw [hall c hc] at hfalse
      cases hfalse
    have hvalid : isValidIpAddress inetPton .inet6 s = true := by
      simp [isValidIpAddress, hne, parsePrefixAddress_eq_self hslash (hlength hip), inetPton, h]
    rw [← isZeroIpvxAddress_inet6 hslash hne]
    simp [isValidDnsServer, hne, hvalid, hip, hother]
  · have hip : ip ≠ Ipv6.unspecified := fun hip => hall (hnought.mp hip)
    simp only [not_forall, Bool.not_eq_true, exists_prop] at hall
    exact iff_of_true (fun _ => hip) (.inl hall)

theorem isValidDnsServer_inet6_documented :
    inetPton6 "2001:db8::53" = some ⟨[0x2001, 0xdb8, 0, 0, 0, 0, 0, 0x53], rfl⟩ ∧
      ((isValidDnsServer inetPton .inet6 "2001:db8::53" = true →
          (⟨[0x2001, 0xdb8, 0, 0, 0, 0, 0, 0x53], rfl⟩ : Ipv6) ≠ Ipv6.unspecified) ↔
        (∃ c ∈ "2001:db8::53".toList, isNought c = false) ∨ "2001:db8::53" = "::" ∨
          "2001:db8::53" = "0:0:0:0:0:0:0:0") := by
  have hread : inetPton6 "2001:db8::53" = some ⟨[0x2001, 0xdb8, 0, 0, 0, 0, 0, 0x53], rfl⟩ := by
    decide +kernel
  exact ⟨hread, isValidDnsServer_inet6 _ _ hread⟩

/-- A zero behind the colons, and the unspecified address is a name server. -/
theorem unspecified_isValidDnsServer : ¬ ∀ s ip, inetPton6 s = some ip →
    isValidDnsServer inetPton .inet6 s = true → ip ≠ Ipv6.unspecified := by
  intro h
  exact h "::0" Ipv6.unspecified (by decide +kernel) (by decide +kernel) rfl

end Ipv6

/-! ## The restart -/

section Restart

variable {inetPton : AddressFamily → String → Bool}

/-- What is published of a server is the server itself: there is none, or it is valid and its family
enabled. -/
def Published (inetPton : AddressFamily → String → Bool) (af : AddressFamily) (add : Bool)
    (server : String) : Prop :=
  server = "" ∨ add = true ∧ isValidDnsServer inetPton af server = true

theorem saved_eq_self (af : AddressFamily) (add : Bool) (server : String) :
    saved inetPton af add server = server ↔ Published inetPton af add server := by
  unfold saved Published
  rw [← Bool.and_eq_true]
  split
  · next h => simp [h]
  · next h => simp [h, eq_comm]

theorem saved_eq_iff {af : AddressFamily} {add : Bool} {size : Nat} {server value : String}
    (h : server = buffer size value) :
    saved inetPton af add server = value ↔ buffer size value = value ∧ Published inetPton af add server := by
  constructor
  · intro hsaved
    by_cases hpublished : add && isValidDnsServer inetPton af server
    · rw [saved, if_pos hpublished] at hsaved
      exact ⟨h ▸ hsaved, .inr (by simpa using hpublished)⟩
    · rw [saved, if_neg hpublished] at hsaved
      have hempty : buffer size "" = "" := by simp [buffer]
      subst hsaved
      exact ⟨hempty, .inl (h.trans hempty)⟩
  · rintro ⟨hvalue, hpublished⟩
    rw [(saved_eq_self _ _ _).mpr hpublished, h, hvalue]

/-- A change of the published servers restarts the DHCP server exactly when the file cannot be opened
and nothing changes, when both families are disabled, when the lease differs from what was published,
or when all that was published still is. -/
theorem restarts_iff (inetPton : AddressFamily → String → Bool) (opens : Bool) (mode : NetworkingMode)
    (ip : IfaceIp) (addIpv4 addIpv6 : Bool) (e : DnsSysevents) :
    (∀ r, wanUpdateDns inetPton opens mode ip addIpv4 addIpv6 e = some r →
        r.sysevents.servers ≠ e.servers → r.dhcpServerRestart = true) ↔
      (mode = .gateway ∧ opens = false) ∨ (addIpv4 = false ∧ addIpv6 = false) ∨
        offered ip ≠ e.syseventGet ∨
        (e.syseventGet = e.servers ∧
          Published inetPton .inet addIpv4 ip.ipv4Data.dnsServer ∧
          Published inetPton .inet addIpv4 ip.ipv4Data.dnsServer1 ∧
          Published inetPton .inet6 addIpv6 ip.ipv6Data.nameserver ∧
          Published inetPton .inet6 addIpv6 ip.ipv6Data.nameserver1) := by
  by_cases hopens : mode = .gateway ∧ opens = false
  · simp [wanUpdateDns, hopens]
  obtain ⟨r, hr⟩ : ∃ r, wanUpdateDns inetPton opens mode ip addIpv4 addIpv6 e = some r := by
    rw [wanUpdateDns, if_neg hopens]
    dsimp only
    split <;> exact ⟨_, rfl⟩
  simp only [hr, Option.some.injEq, forall_eq', saved_wanUpdateDns hr, hopens, false_or]
  by_cases hnone : addIpv4 = false ∧ addIpv6 = false
  · have hrestart : r.dhcpServerRestart = true := by
      rw [wanUpdateDns, if_neg hopens] at hr
      simp only [if_pos hnone, Option.some.injEq] at hr
      rw [← hr]
    simp [hrestart, hnone]
  have hrestart : r.dhcpServerRestart = true ↔ offered ip ≠ e.syseventGet := by
    rw [wanUpdateDns, if_neg hopens] at hr
    simp only [if_neg hnone, Option.some.injEq] at hr
    rw [← hr, decide_eq_true_eq]
  rw [hrestart]
  by_cases hoffered : offered ip = e.syseventGet
  · have hsame := hoffered
    simp only [offered, DnsSysevents.syseventGet, List.cons.injEq, and_true] at hsame
    obtain ⟨h₁, h₂, h₃, h₄⟩ := hsame
    simp only [hoffered, ne_eq, not_true, imp_false, not_not, hnone, false_or, DnsSysevents.servers,
      DnsSysevents.syseventGet, List.cons.injEq, and_true, saved_eq_iff h₁, saved_eq_iff h₂,
      saved_eq_iff h₃, saved_eq_iff h₄]
    tauto
  · simp [hoffered]

/-- The lease has kept its server, its family is disabled now, and the DHCP server keeps it too. -/
theorem disabled_not_restarted : ¬ ∀ (ip : IfaceIp) (addIpv4 addIpv6 : Bool) (e : DnsSysevents) r,
    wanUpdateDns ResolvConf.inetPton true .gateway ip addIpv4 addIpv6 e = some r →
      r.sysevents.servers ≠ e.servers → r.dhcpServerRestart = true := by
  intro h
  have hrestart := h { ipv4Data := { dnsServer := "8.8.8.8" } } false true
    { ipv4Primary := "8.8.8.8", wanPrimary := "8.8.8.8" } _ rfl (by decide +kernel)
  revert hrestart
  decide +kernel

end Restart

end WanManager.ResolvConf
