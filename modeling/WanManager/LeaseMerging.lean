import WanManager.LeaseMessages
import WanManager.Concurrency.Latest

/-! # Merging DHCPv6 messages

A DHCPv6 message names an address (IA_NA), a prefix (IA_PD), both or neither, and
`wanmgr_handle_dhcpv6_event_data` replaces the stored data as a whole once it has merged the message
with them. -/

namespace WanManager
open Concurrency

namespace InterfaceSm

/-- The two kinds of an association. -/
inductive Ia where
  | na | pd
  deriving DecidableEq

/-- What some data present as assigned. -/
def assigned (d : Ipv6Data) : Ia → Option String
  | .na => if d.addrAssigned then some d.address else none
  | .pd => if hasPrefix d.toIpv6Terms then some d.sitePrefix else none

/-- What a virtual interface has stored. -/
def storedIa (s : Vism) : Ia → Option String := assigned s.virtIf.ip.ipv6Data

/-! ## One message -/

section Message

variable {m : Dhcpv6Msg} {s : Vism} {cur : Ipv6Data}

theorem ip_takeMaptOffer (o : MaptOffer) (d : Ipv6Terms) (s : Vism) :
    (takeMaptOffer o d s).virtIf.ip = s.virtIf.ip := by
  unfold takeMaptOffer
  split
  · rfl
  split <;> rfl

theorem ip_expired (h : m.isExpired = true) :
    (handleDhcpv6EventData m s).virtIf.ip = (updateInterfaceStatus s .connectionIpv6Down).virtIf.ip := by
  rw [handleDhcpv6EventData, if_pos h]

theorem ip_connected (h : m.isExpired = false) (hc : m.connects s.virtIf.ip.ipv6Data = true) :
    (handleDhcpv6EventData m s).virtIf.ip.ipv6Data = newIpv6Data m s ∧
      (handleDhcpv6EventData m s).virtIf.ip.ipv6Status = .up := by
  rw [handleDhcpv6EventData, if_neg (by simp [h]), ip_takeMaptOffer, if_pos hc]
  exact ⟨rfl, rfl⟩

theorem ip_unconnected (h : m.isExpired = false) (hc : m.connects s.virtIf.ip.ipv6Data = false) :
    (handleDhcpv6EventData m s).virtIf.ip = (removePrefix m s).virtIf.ip := by
  rw [handleDhcpv6EventData, if_neg (by simp [h]), ip_takeMaptOffer, if_neg (by simp [hc])]

theorem addrAssigned_keepAddress (new : Ipv6Data) : (keepAddress cur new).addrAssigned =
    (new.addrAssigned || cur.addrAssigned && new.prefixAssigned) := by
  unfold keepAddress
  split
  · next hkeep => simp_all
  · next hnew =>
    simp only [Bool.and_eq_true, Bool.not_eq_true', not_and, Bool.not_eq_true] at hnew
    grind

theorem assigned_keepAddress_na (new : Ipv6Data) : assigned (keepAddress cur new) .na =
    if new.addrAssigned then some new.address
    else if new.prefixAssigned then assigned cur .na else none := by
  unfold keepAddress
  split
  · next hkeep => simp_all [assigned]
  · next hnew =>
    simp only [Bool.and_eq_true, Bool.not_eq_true', not_and, Bool.not_eq_true] at hnew
    unfold assigned
    grind

theorem hasPrefix_keepAddress (new : Ipv6Data) :
    hasPrefix (keepAddress cur new).toIpv6Terms = hasPrefix new.toIpv6Terms := by
  unfold keepAddress
  split <;> rfl

theorem addrAssigned_keepPrefix (new : Ipv6Data) :
    (keepPrefix cur new).addrAssigned = new.addrAssigned := by
  unfold keepPrefix
  split <;> rfl

theorem assigned_keepPrefix_na (new : Ipv6Data) :
    assigned (keepPrefix cur new) .na = assigned new .na := by
  unfold keepPrefix
  split <;> rfl

theorem assigned_keepPrefix_pd (new : Ipv6Data) : assigned (keepPrefix cur new) .pd =
    if hasPrefix new.toIpv6Terms then some new.sitePrefix
    else if new.addrAssigned then assigned cur .pd else none := by
  unfold keepPrefix
  split
  · next hkeep =>
    simp only [Bool.and_eq_true, Bool.not_eq_true'] at hkeep
    rw [hkeep.1.1, hkeep.2]
    simp [assigned, hasPrefix, hkeep.1.2]
  · next hnew =>
    simp only [Bool.and_eq_true, Bool.not_eq_true', not_and, Bool.not_eq_true] at hnew
    unfold assigned hasPrefix at *
    grind

theorem addrAssigned_merged : (m.merged cur).addrAssigned =
    (m.addrAssigned || cur.addrAssigned && m.prefixAssigned) :=
  (addrAssigned_keepPrefix _).trans (addrAssigned_keepAddress _)

/-- An address the interface has given itself is not one that is assigned. -/
theorem assigned_newIpv6Data (i : Ia) :
    assigned (newIpv6Data m s) i = assigned (m.merged s.virtIf.ip.ipv6Data) i := by
  unfold newIpv6Data adoptGlobalAddr
  split
  · rfl
  split
  · next hown =>
    simp only [Bool.and_eq_true, Bool.not_eq_true'] at hown
    cases i with
    | na => simp [assigned, hown.1]
    | pd => rfl
  · rfl

theorem assigned_merged_na : assigned (m.merged cur) .na =
    if m.addrAssigned then some m.address
    else if m.prefixAssigned then assigned cur .na else none :=
  (assigned_keepPrefix_na _).trans (assigned_keepAddress_na _)

theorem assigned_merged_pd : assigned (m.merged cur) .pd =
    if hasPrefix m.toIpv6Terms then some m.sitePrefix
    else if (m.merged cur).addrAssigned then assigned cur .pd else none := by
  have hsite : (keepAddress cur m.getIpcMsgInfo).sitePrefix = m.sitePrefix := by
    unfold keepAddress
    split <;> rfl
  rw [Dhcpv6Msg.merged, assigned_keepPrefix_pd, hasPrefix_keepAddress, hsite, addrAssigned_keepPrefix]
  rfl

theorem assigned_removed (h : m.removes s.virtIf.ip.ipv6Data = true) :
    storedIa (removePrefix m s) .pd = none := by
  rw [removePrefix, if_pos h]
  simp [storedIa, assigned, hasPrefix, updateInterfaceStatus, Vism.mapIp, Vism.mapVirtIf, Vism.mapMap]

theorem removePrefix_of_kept (h : m.removes s.virtIf.ip.ipv6Data = false) : removePrefix m s = s := by
  rw [removePrefix, h]
  rfl

end Message

/-! ## Sequences of messages -/

/-- The message takes nothing back. -/
structure NonWithdrawing (m : Dhcpv6Msg) : Prop where
  lasts : m.isExpired = false
  addr : m.addrAssigned = true → m.addrCmd = .add
  pfx : hasPrefix m.toIpv6Terms = true →
    m.prefixCmd = .add ∧ ¬ (m.prefixPltime = 0 ∧ m.prefixVltime = 0)

/-- An association is there, or the interface has a global address and no address is assigned. -/
def Merges (m : Dhcpv6Msg) (cur : Ipv6Data) : Prop :=
  if m.addrAssigned ∨ hasPrefix m.toIpv6Terms then
    m.addrAssigned ∨ prefixLives m.toIpv6Terms ∨ (cur.addrAssigned = false ∧ m.globalAddr.isSome)
  else
    m.globalAddr.isSome ∧ ¬ (cur.addrAssigned ∧ m.prefixAssigned) →
      cur.addrAssigned = false ∧ hasPrefix cur.toIpv6Terms = false

section Sequence

variable {m : Dhcpv6Msg} {s : Vism} {cur : Ipv6Data}

theorem connects_eq (h : NonWithdrawing m) : m.connects cur =
    (m.addrAssigned || (hasPrefix m.toIpv6Terms && prefixLives m.toIpv6Terms) ||
      (!(cur.addrAssigned && m.prefixAssigned) && m.globalAddr.isSome)) := by
  unfold Dhcpv6Msg.connects
  rw [addrAssigned_merged]
  have haddr := h.addr
  have hpfx := h.pfx
  grind

theorem assigned_na_eq_none (d : Ipv6Data) : assigned d .na = none ↔ d.addrAssigned = false := by
  simp [assigned]

theorem assigned_pd_eq_none (d : Ipv6Data) : assigned d .pd = none ↔ hasPrefix d.toIpv6Terms = false := by
  simp [assigned]

/-- What the handler makes of the stored associations, if it has renewed them. -/
def RenewedBy (m : Dhcpv6Msg) (s : Vism) : Prop :=
  Renews (fun s m => handleDhcpv6EventData m s) storedIa (fun m => assigned m.toIpv6Data) s m

theorem renewedBy_iff : RenewedBy m s ↔ ∀ i, storedIa (handleDhcpv6EventData m s) i =
    (assigned m.toIpv6Data i).or (storedIa s i) := Iff.rfl

theorem stored_connected (h : m.isExpired = false) (hc : m.connects s.virtIf.ip.ipv6Data = true) (i : Ia) :
    storedIa (handleDhcpv6EventData m s) i = assigned (m.merged s.virtIf.ip.ipv6Data) i := by
  rw [storedIa, (ip_connected h hc).1]
  exact assigned_newIpv6Data i

theorem stored_unconnected (h : m.isExpired = false) (hc : m.connects s.virtIf.ip.ipv6Data = false) :
    storedIa (handleDhcpv6EventData m s) = storedIa (removePrefix m s) := by
  rw [storedIa, ip_unconnected h hc]
  rfl

/-- A message with an address renews it and keeps the prefix, unless it has one too. -/
theorem renewed_of_addr (h : NonWithdrawing m) (ha : m.addrAssigned = true) : RenewedBy m s := by
  have hc : m.connects s.virtIf.ip.ipv6Data = true := by simp [connects_eq h, ha]
  rw [renewedBy_iff]
  intro i
  rw [stored_connected h.lasts hc]
  cases i with
  | na =>
    rw [assigned_merged_na]
    simp [assigned, ha]
  | pd =>
    rw [assigned_merged_pd, addrAssigned_merged, ha]
    cases hp : hasPrefix m.toIpv6Terms <;> simp [assigned, hp, storedIa]

/-- A message with a prefix alone renews it if the handler takes the interface to be connected. -/
theorem renewed_iff_of_pd (h : NonWithdrawing m) (ha : m.addrAssigned = false)
    (hp : hasPrefix m.toIpv6Terms = true) : RenewedBy m s ↔ m.connects s.virtIf.ip.ipv6Data = true := by
  have hassigned : m.prefixAssigned = true := (Bool.and_eq_true_iff.mp hp).1
  have hcarried : assigned m.toIpv6Data .pd = some m.sitePrefix := by simp [assigned, hp]
  rw [renewedBy_iff]
  constructor
  · intro hr
    by_contra hc
    rw [Bool.not_eq_true] at hc
    have hpd := hr .pd
    rw [hcarried, Option.some_or, stored_unconnected h.lasts hc] at hpd
    cases hrem : m.removes s.virtIf.ip.ipv6Data with
    | true =>
      rw [assigned_removed hrem] at hpd
      cases hpd
    | false =>
      rw [removePrefix_of_kept hrem] at hpd
      have hlives : prefixLives m.toIpv6Terms = false := by
        simp only [connects_eq h, ha, hp, Bool.false_or, Bool.true_and, Bool.or_eq_false_iff] at hc
        exact hc.1
      have hsame : s.virtIf.ip.ipv6Data.sitePrefix = m.sitePrefix := by
        unfold storedIa assigned at hpd
        grind
      simp [Dhcpv6Msg.removes, hp, hlives, hsame] at hrem
  · intro hc i
    rw [stored_connected h.lasts hc]
    cases i with
    | na =>
      rw [assigned_merged_na, ha, hassigned]
      simp [assigned, ha, storedIa]
    | pd =>
      rw [assigned_merged_pd, hp, hcarried]
      rfl

/-- A message with neither must not be taken for a connected interface. -/
theorem renewed_iff_of_neither (h : NonWithdrawing m) (ha : m.addrAssigned = false)
    (hp : hasPrefix m.toIpv6Terms = false) : RenewedBy m s ↔
      (m.connects s.virtIf.ip.ipv6Data = true →
        s.virtIf.ip.ipv6Data.addrAssigned = false ∧
          hasPrefix s.virtIf.ip.ipv6Data.toIpv6Terms = false) := by
  have hcarried : ∀ i, assigned m.toIpv6Data i = none := by
    intro i
    cases i with
    | na => exact (assigned_na_eq_none _).mpr ha
    | pd => exact (assigned_pd_eq_none _).mpr hp
  rw [renewedBy_iff]
  cases hc : m.connects s.virtIf.ip.ipv6Data with
  | false =>
    have hrem : m.removes s.virtIf.ip.ipv6Data = false := by simp [Dhcpv6Msg.removes, hp]
    refine ⟨fun _ => nofun, fun _ i => ?_⟩
    rw [stored_unconnected h.lasts hc, removePrefix_of_kept hrem, hcarried, Option.none_or]
  | true =>
    have hno : (s.virtIf.ip.ipv6Data.addrAssigned && m.prefixAssigned) = false := by
      simp only [connects_eq h, ha, hp, Bool.false_or, Bool.false_and, Bool.and_eq_true,
        Bool.not_eq_true'] at hc
      exact hc.1
    have hlost : ∀ i, assigned (m.merged s.virtIf.ip.ipv6Data) i = none := by
      intro i
      cases i with
      | na =>
        rw [assigned_merged_na, ha]
        unfold assigned
        grind
      | pd =>
        rw [assigned_merged_pd, hp, addrAssigned_merged, ha, hno]
        rfl
    have hstored : (∀ i, storedIa (handleDhcpv6EventData m s) i =
        (assigned m.toIpv6Data i).or (storedIa s i)) ↔ ∀ i, assigned s.virtIf.ip.ipv6Data i = none := by
      refine forall_congr' fun i => ?_
      rw [stored_connected h.lasts hc, hlost, hcarried, Option.none_or]
      exact eq_comm
    rw [hstored]
    constructor
    · intro hall _
      exact ⟨(assigned_na_eq_none _).mp (hall .na), (assigned_pd_eq_none _).mp (hall .pd)⟩
    · intro hnone i
      cases i with
      | na => exact (assigned_na_eq_none _).mpr (hnone rfl).1
      | pd => exact (assigned_pd_eq_none _).mpr (hnone rfl).2

theorem renewed_iff (h : NonWithdrawing m) : RenewedBy m s ↔ Merges m s.virtIf.ip.ipv6Data := by
  unfold Merges
  cases ha : m.addrAssigned with
  | true => simpa using renewed_of_addr h ha
  | false =>
    cases hp : hasPrefix m.toIpv6Terms with
    | true =>
      have hassigned : m.prefixAssigned = true := (Bool.and_eq_true_iff.mp hp).1
      rw [renewed_iff_of_pd h ha hp, connects_eq h, ha, hp, hassigned]
      simp
    | false =>
      rw [renewed_iff_of_neither h ha hp, connects_eq h, ha, hp]
      simp
      grind

end Sequence

/-- The stored associations follow a list of messages. -/
abbrev FollowsMessages (s : Vism) (ms : List Dhcpv6Msg) : Prop :=
  Follows (fun s m => handleDhcpv6EventData m s) storedIa (fun m => assigned m.toIpv6Data) s ms

/-- Each message of a list is merged with what the ones before it have left. -/
def AllMerge (s : Vism) (ms : List Dhcpv6Msg) : Prop :=
  ∀ done m, done ++ [m] <+: ms →
    Merges m (done.foldl (fun s m => handleDhcpv6EventData m s) s).virtIf.ip.ipv6Data

section Runs

variable {s : Vism} {ms : List Dhcpv6Msg}

theorem mem_of_prefix_concat {done : List Dhcpv6Msg} {m : Dhcpv6Msg} (h : done ++ [m] <+: ms) : m ∈ ms :=
  h.subset (List.mem_append_right _ (List.mem_singleton_self m))

/-- The stored address is the one named last, and so is the prefix, as long as each message is merged
with what is stored. -/
theorem followsMessages_iff (h : ∀ m ∈ ms, NonWithdrawing m) :
    FollowsMessages s ms ↔ AllMerge s ms := by
  refine follows_iff.trans (forall_congr' fun done => forall_congr' fun m => forall_congr' fun hpre => ?_)
  exact renewed_iff (h m (mem_of_prefix_concat hpre))

end Runs

/-- A lease of an address and a prefix. -/
def fullLease : Dhcpv6Msg where
  address := "2001:db8::7"
  addrAssigned := true
  sitePrefix := "2001:db8:1::/56"
  prefixAssigned := true
  prefixPltime := 3600
  prefixVltime := 7200

/-- A renewal of the address alone. -/
def addrRenewal : Dhcpv6Msg where
  address := "2001:db8::8"
  addrAssigned := true

/-- A message without either, to an interface that has a global address. -/
def neither : Dhcpv6Msg where
  nameserver := "2001:db8::53"
  globalAddr := some ("2001:db8::7", "2001:db8::7/128")

theorem nonWithdrawing_fullLease : NonWithdrawing fullLease :=
  ⟨rfl, fun _ => rfl, fun _ => ⟨rfl, by decide⟩⟩

theorem nonWithdrawing_neither : NonWithdrawing neither := ⟨rfl, fun _ => rfl, nofun⟩

theorem followsMessages_iff_renewal :
    (∀ m ∈ [fullLease, addrRenewal], NonWithdrawing m) ∧ FollowsMessages {} [fullLease, addrRenewal] := by
  have hall : ∀ m ∈ [fullLease, addrRenewal], NonWithdrawing m := by
    intro m hm
    simp only [List.mem_cons, List.not_mem_nil, or_false] at hm
    obtain rfl | rfl := hm
    · exact nonWithdrawing_fullLease
    · exact ⟨rfl, fun _ => rfl, nofun⟩
  refine ⟨hall, (followsMessages_iff hall).mpr fun done m hpre => ?_⟩
  have haddr : m.addrAssigned = true := by
    have hm := mem_of_prefix_concat hpre
    simp only [List.mem_cons, List.not_mem_nil, or_false] at hm
    obtain rfl | rfl := hm <;> rfl
  simp [Merges, haddr]

/-- The prefix is lost to a message that names neither. -/
theorem prefix_lost : (∀ m ∈ [fullLease, neither], NonWithdrawing m) ∧
    ¬ FollowsMessages {} [fullLease, neither] := by
  refine ⟨fun m hm => ?_, fun h => ?_⟩
  · simp only [List.mem_cons, List.not_mem_nil, or_false] at hm
    obtain rfl | rfl := hm
    · exact nonWithdrawing_fullLease
    · exact nonWithdrawing_neither
  · have hpd := h.latest .pd
    revert hpd
    decide +kernel

/-! ## A prefix that is taken back -/

/-- The message takes the stored prefix back. -/
structure Withdraws (m : Dhcpv6Msg) (cur : Ipv6Data) : Prop where
  names : hasPrefix m.toIpv6Terms = true
  same : cur.sitePrefix = m.sitePrefix
  back : m.prefixCmd = .remove ∨ (m.prefixPltime = 0 ∧ m.prefixVltime = 0)

/-- An address of the message, or else of the interface, connects it. -/
def GivesAddress (m : Dhcpv6Msg) (cur : Ipv6Data) : Prop :=
  (m.addrAssigned = true ∧ m.addrCmd = .add) ∨
    (m.addrAssigned = false ∧ cur.addrAssigned = false ∧ m.globalAddr.isSome = true)

/-- The prefix is not presented any more, and IPv6 is up only for an address. -/
def Withdrawn (m : Dhcpv6Msg) (s : Vism) : Prop :=
  storedIa (handleDhcpv6EventData m s) .pd ≠ some m.sitePrefix ∧
    ((handleDhcpv6EventData m s).virtIf.ip.ipv6Status = .up → GivesAddress m s.virtIf.ip.ipv6Data)

section Withdraw

variable {m : Dhcpv6Msg} {s : Vism} {cur : Ipv6Data}

theorem Withdraws.not_renewed (h : Withdraws m cur) :
    (m.prefixCmd == .add && prefixLives m.toIpv6Terms) = false := by
  obtain hremove | ⟨hp, -⟩ := h.back
  · simp [hremove]
  · simp [prefixLives, hp]

theorem Withdraws.removes (h : Withdraws m cur) : m.removes cur = true := by
  rw [Dhcpv6Msg.removes, h.names, h.not_renewed, h.same]
  simp

theorem Withdraws.connects_iff (h : Withdraws m cur) : m.connects cur = true ↔ GivesAddress m cur := by
  have hassigned : m.prefixAssigned = true := (Bool.and_eq_true_iff.mp h.names).1
  rw [Dhcpv6Msg.connects, h.names, Bool.true_and, h.not_renewed, addrAssigned_merged, hassigned]
  unfold GivesAddress
  cases m.addrAssigned <;> cases cur.addrAssigned <;> simp

/-- A prefix that was taken back is gone, unless the message leaves the interface connected. -/
theorem withdrawn_iff (h : Withdraws m s.virtIf.ip.ipv6Data) :
    Withdrawn m s ↔ m.isExpired = true ∨ ¬ GivesAddress m s.virtIf.ip.ipv6Data := by
  have hdown : (updateInterfaceStatus s .connectionIpv6Down).virtIf.ip.ipv6Status = .down := rfl
  have hnone : storedIa (updateInterfaceStatus s .connectionIpv6Down) .pd = none :=
    (assigned_pd_eq_none _).mpr (Bool.and_false _)
  unfold Withdrawn
  cases hexp : m.isExpired with
  | true =>
    rw [storedIa, ip_expired hexp, ← storedIa, hnone, hdown]
    simp
  | false =>
    rw [← h.connects_iff]
    cases hc : m.connects s.virtIf.ip.ipv6Data with
    | true =>
      have hkept : storedIa (handleDhcpv6EventData m s) .pd = some m.sitePrefix := by
        rw [stored_connected hexp hc, assigned_merged_pd, h.names]
        rfl
      simp [hkept]
    | false =>
      have hremoved : removePrefix m s = updateInterfaceStatus s .connectionIpv6Down :=
        if_pos h.removes
      rw [stored_unconnected hexp hc, ip_unconnected hexp hc, hremoved, hnone, hdown]
      simp

end Withdraw

/-- The prefix of `fullLease` is taken back. -/
def prefixRemoval : Dhcpv6Msg where
  sitePrefix := "2001:db8:1::/56"
  prefixAssigned := true
  prefixCmd := .remove

/-- An interface that holds `fullLease`. -/
def holder : Vism := handleDhcpv6EventData fullLease {}

theorem withdrawn_iff_removal :
    Withdraws prefixRemoval holder.virtIf.ip.ipv6Data ∧ Withdrawn prefixRemoval holder := by
  have h : Withdraws prefixRemoval holder.virtIf.ip.ipv6Data :=
    ⟨by decide +kernel, by decide +kernel, .inl rfl⟩
  refine ⟨h, (withdrawn_iff h).mpr (.inr ?_)⟩
  unfold GivesAddress
  decide +kernel

/-- With an address in the message the prefix is stored again. -/
theorem prefix_stays :
    Withdraws { prefixRemoval with address := "2001:db8::7", addrAssigned := true }
        holder.virtIf.ip.ipv6Data ∧
      ¬ Withdrawn { prefixRemoval with address := "2001:db8::7", addrAssigned := true } holder := by
  refine ⟨⟨by decide +kernel, by decide +kernel, .inl rfl⟩, fun h => ?_⟩
  have hpd := h.1
  revert hpd
  decide +kernel

end InterfaceSm
end WanManager
