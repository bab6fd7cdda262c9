import WanManager.LeaseMessages
import WanManager.Concurrency.Detached

/-! # Events of the DHCP clients

The DHCP manager publishes an event for every change of a client or its lease. The handler
of an event only copies it, and starts a thread that takes `DhcpClientEvents_mutex` and the
lock of the data base and writes to the virtual interface. The creation of the thread is
taken to succeed. -/

namespace WanManager
open Concurrency InterfaceSm

namespace DhcpEvents

/-! ## Events -/

/-- `DHCP_VERSION` -/
inductive DhcpVersion where
  | dhcpv4 | dhcpv6
  deriving DecidableEq, Repr

/-- `DHCP_MESSAGE_TYPE`; a number that names no message is unknown. -/
inductive DhcpMessageType where
  | clientStarted | clientStopped | clientFailed | leaseUpdate | leaseDel | leaseRenew | unknown
  deriving DecidableEq, Repr

/-- An event as it comes from the bus. -/
structure BusEvent where
  eventName : String
  ifName : String
  msgType : DhcpMessageType
  leaseInfo : List UInt8 := []
  deriving DecidableEq, Repr

/-- The layout of `DHCP_MGR_IPV4_MSG` and `DHCP_MGR_IPV6_MSG` in memory. -/
structure MsgLayout where
  ipv4Size : Nat
  ipv4Of : List UInt8 → Ipv4Terms
  ipv6Size : Nat
  ipv6Of : List UInt8 → Ipv6Terms × MaptOffer

/-- `DhcpEventThreadArgs`; of the union of the leases the one of `version` is read. -/
structure DhcpEventThreadArgs where
  ifName : String
  version : DhcpVersion
  type : DhcpMessageType
  v4 : Ipv4Terms := {}
  v6 : Ipv6Terms := {}
  mapt : MaptOffer := {}
  deriving DecidableEq

/-- `LeaseInfo` has the length of the message it should be. -/
def fits (L : MsgLayout) (v : DhcpVersion) (e : BusEvent) : Bool :=
  match v with
  | .dhcpv4 => e.leaseInfo.length == L.ipv4Size
  | .dhcpv6 => e.leaseInfo.length == L.ipv6Size

/-- `DHCP_MGR_DHCPv4_TABLE` and `DHCP_MGR_DHCPv6_TABLE` -/
def eventVersion (e : BusEvent) : Option DhcpVersion :=
  if strstr e.eventName "Device.DHCPv4.Client" then some .dhcpv4
  else if strstr e.eventName "Device.DHCPv6.Client" then some .dhcpv6
  else none

/-- The size of `ifName`, less its last byte. -/
def ifNameLength : Nat := 19

/-- The arguments `WanMgr_DhcpClientEventsHandler` starts a thread with. -/
def eventsHandler (L : MsgLayout) (e : BusEvent) : Option DhcpEventThreadArgs :=
  (eventVersion e).map fun version =>
    let args : DhcpEventThreadArgs :=
      { ifName := String.ofList (e.ifName.toList.take ifNameLength), version, type := e.msgType }
    if e.msgType = .leaseUpdate ∧ fits L version e then
      match version with
      | .dhcpv4 => { args with v4 := L.ipv4Of e.leaseInfo }
      | .dhcpv6 => { args with v6 := (L.ipv6Of e.leaseInfo).1, mapt := (L.ipv6Of e.leaseInfo).2 }
    else args

/-! ## The thread of an event -/

/-- A virtual interface with its name. -/
structure NamedVif where
  name : String
  sm : Vism
  deriving DecidableEq

/-- The virtual interfaces of the data base, in the order of the table. -/
abbrev Vifs := List NamedVif

/-- `WanMgr_GetVIfByName_VISM_running_locked` -/
def vifByNameVismRunning (name : String) (vs : Vifs) : Option Nat :=
  if name = "" then none
  else vs.findIdx? fun v => v.name == name && v.sm.virtIf.interfaceSmRunning

/-- What the thread does to the virtual interface it finds. -/
def DhcpEventThreadArgs.message (a : DhcpEventThreadArgs) : Option LeaseMessage :=
  match a.version, a.type with
  | .dhcpv4, .clientStarted => some (.dhcpv4Client .started)
  | .dhcpv4, .clientStopped => some (.dhcpv4Client .stopped)
  | .dhcpv4, .clientFailed => some (.dhcpv4Client .failed)
  | .dhcpv4, .leaseRenew => some .dhcpv4Renew
  | .dhcpv4, .leaseDel => some .dhcpv4Del
  | .dhcpv4, .leaseUpdate => some (.dhcpv4Update a.v4)
  | .dhcpv6, .clientStarted => some (.dhcpv6Client .started)
  | .dhcpv6, .clientStopped => some (.dhcpv6Client .stopped)
  | .dhcpv6, .clientFailed => some (.dhcpv6Client .failed)
  | .dhcpv6, .leaseRenew => some .dhcpv6Renew
  | .dhcpv6, .leaseDel => some .dhcpv6Del
  | .dhcpv6, .leaseUpdate => some (.dhcpv6Update a.v6 a.mapt)
  | _, .unknown => none

def DhcpEventThreadArgs.apply (a : DhcpEventThreadArgs) (s : Vism) : Vism :=
  match a.message with
  | some m => m.handle s
  | none => s

/-- `WanMgr_DhcpClientEventsHandler_Thread` -/
def eventsHandlerThread (vs : Vifs) (a : DhcpEventThreadArgs) : Vifs :=
  match vifByNameVismRunning a.ifName vs with
  | some j => vs.modify j fun v => { v with sm := a.apply v.sm }
  | none => vs

/-! ## What an event writes -/

/-- The client and the lease of each family. -/
structure LeaseView where
  dhcp4c : DhcpcStatus
  ipv4Status : LeaseStatus
  ipv4Data : Ipv4Data
  dhcp6c : DhcpcStatus
  ipv6Status : LeaseStatus
  ipv6Data : Ipv6Data
  deriving DecidableEq

def leaseView (s : Vism) : LeaseView where
  dhcp4c := s.virtIf.ip.dhcp4cStatus
  ipv4Status := s.virtIf.ip.ipv4Status
  ipv4Data := s.virtIf.ip.ipv4Data
  dhcp6c := s.virtIf.ip.dhcp6cStatus
  ipv6Status := s.virtIf.ip.ipv6Status
  ipv6Data := s.virtIf.ip.ipv6Data

/-- The parts of a `LeaseView` that an event overwrites or leaves alone. -/
inductive Reg where
  | client (v : DhcpVersion)
  | status (v : DhcpVersion)
  | ipv4Addr
  | ipv4Rest
  | ipv4Kept
  | ipv6Lease
  | ipv6Rest
  | pdIfAddress
  | ipv6Kept

/-- Every value of a register, as one type. -/
inductive RegValue where
  | client (st : DhcpcStatus)
  | status (st : LeaseStatus)
  | text (s : String)
  | ipv4 (d : Ipv4Terms)
  | ipv4Data (d : Ipv4Data)
  | lease (l : Ipv6Lease)
  | ipv6 (d : Ipv6Terms)
  | ipv6Data (d : Ipv6Data)
  deriving DecidableEq

/-- A DHCPv4 lease without its address, which `LEASE_DEL` clears. -/
def restOfIpv4 (d : Ipv4Terms) : Ipv4Terms := { d with ip := "" }

/-- A DHCPv6 lease without what `LEASE_DEL` clears. -/
def restOfIpv6 (d : Ipv6Terms) : Ipv6Terms := { d with toIpv6Lease := {} }

/-- What no event names. -/
def keptIpv4 (d : Ipv4Data) : Ipv4Data := { d with toIpv4Terms := {} }

def keptIpv6 (d : Ipv6Data) : Ipv6Data := { d with toIpv6Terms := {}, pdIfAddress := "" }

def Reg.read (i : Reg) (s : LeaseView) : RegValue :=
  match i with
  | .client .dhcpv4 => .client s.dhcp4c
  | .client .dhcpv6 => .client s.dhcp6c
  | .status .dhcpv4 => .status s.ipv4Status
  | .status .dhcpv6 => .status s.ipv6Status
  | .ipv4Addr => .text s.ipv4Data.ip
  | .ipv4Rest => .ipv4 (restOfIpv4 s.ipv4Data.toIpv4Terms)
  | .ipv4Kept => .ipv4Data (keptIpv4 s.ipv4Data)
  | .ipv6Lease => .lease s.ipv6Data.toIpv6Lease
  | .ipv6Rest => .ipv6 (restOfIpv6 s.ipv6Data.toIpv6Terms)
  | .pdIfAddress => .text s.ipv6Data.pdIfAddress
  | .ipv6Kept => .ipv6Data (keptIpv6 s.ipv6Data)

/-- A DHCPv4 lease is its address and the rest of it. -/
theorem restOfIpv4_inj {d d' : Ipv4Terms} (hip : d.ip = d'.ip)
    (hrest : restOfIpv4 d = restOfIpv4 d') : d = d' := by
  obtain ⟨⟨_, _, _, _, _⟩, _, _, _, _, _, _⟩ := d
  obtain ⟨⟨_, _, _, _, _⟩, _, _, _, _, _, _⟩ := d'
  simp_all [restOfIpv4]

theorem restOfIpv6_inj {d d' : Ipv6Terms} (hlease : d.toIpv6Lease = d'.toIpv6Lease)
    (hrest : restOfIpv6 d = restOfIpv6 d') : d = d' := by
  obtain ⟨_, _, _, _, _, _, _, _, _⟩ := d
  obtain ⟨_, _, _, _, _, _, _, _, _⟩ := d'
  simp_all [restOfIpv6]

theorem keptIpv4_inj {d d' : Ipv4Data} (hterms : d.toIpv4Terms = d'.toIpv4Terms)
    (hkept : keptIpv4 d = keptIpv4 d') : d = d' := by
  obtain ⟨_, _, _, _, _, _⟩ := d
  obtain ⟨_, _, _, _, _, _⟩ := d'
  simp_all [keptIpv4]

theorem keptIpv6_inj {d d' : Ipv6Data} (hterms : d.toIpv6Terms = d'.toIpv6Terms)
    (hpd : d.pdIfAddress = d'.pdIfAddress) (hkept : keptIpv6 d = keptIpv6 d') : d = d' := by
  obtain ⟨_, _, _, _, _⟩ := d
  obtain ⟨_, _, _, _, _⟩ := d'
  simp_all [keptIpv6]

theorem leaseView_ext {s u : LeaseView} (h : ∀ i : Reg, i.read s = i.read u) : s = u := by
  have hv4 : s.ipv4Data = u.ipv4Data :=
    keptIpv4_inj (restOfIpv4_inj (RegValue.text.inj (h .ipv4Addr)) (RegValue.ipv4.inj (h .ipv4Rest)))
      (RegValue.ipv4Data.inj (h .ipv4Kept))
  have hv6 : s.ipv6Data = u.ipv6Data :=
    keptIpv6_inj (restOfIpv6_inj (RegValue.lease.inj (h .ipv6Lease)) (RegValue.ipv6.inj (h .ipv6Rest)))
      (RegValue.text.inj (h .pdIfAddress)) (RegValue.ipv6Data.inj (h .ipv6Kept))
  have hc4 : s.dhcp4c = u.dhcp4c := RegValue.client.inj (h (.client .dhcpv4))
  have hc6 : s.dhcp6c = u.dhcp6c := RegValue.client.inj (h (.client .dhcpv6))
  have hs4 : s.ipv4Status = u.ipv4Status := RegValue.status.inj (h (.status .dhcpv4))
  have hs6 : s.ipv6Status = u.ipv6Status := RegValue.status.inj (h (.status .dhcpv6))
  obtain ⟨_, _, _, _, _, _⟩ := s
  obtain ⟨_, _, _, _, _, _⟩ := u
  simp_all

/-- The status of a client that an event tells. -/
def clientStatus : DhcpMessageType → Option DhcpcStatus
  | .clientStarted => some .started
  | .clientStopped => some .stopped
  | .clientFailed => some .failed
  | _ => none

/-- The status of a lease after an event. -/
def leaseStatus : DhcpMessageType → Option LeaseStatus
  | .leaseRenew | .leaseUpdate => some .up
  | .leaseDel => some .down
  | _ => none

/-- What the events of one family that update or delete a lease write. -/
def leaseWrite (updated : RegValue) (deleted : Option RegValue) : DhcpMessageType → Option RegValue
  | .leaseUpdate => some updated
  | .leaseDel => deleted
  | _ => none

/-- The family whose events write a register. -/
def Reg.version : Reg → DhcpVersion
  | .client v | .status v => v
  | .ipv4Addr | .ipv4Rest | .ipv4Kept => .dhcpv4
  | .ipv6Lease | .ipv6Rest | .pdIfAddress | .ipv6Kept => .dhcpv6

/-- What an event of its family writes to a register. -/
def Reg.writeOwn (i : Reg) (a : DhcpEventThreadArgs) : Option RegValue :=
  match i with
  | .client _ => (clientStatus a.type).map .client
  | .status _ => (leaseStatus a.type).map .status
  | .ipv4Addr => leaseWrite (.text a.v4.ip) (some (.text "")) a.type
  | .ipv4Rest => leaseWrite (.ipv4 (restOfIpv4 a.v4)) none a.type
  | .ipv6Lease => leaseWrite (.lease a.v6.toIpv6Lease) (some (.lease {})) a.type
  | .ipv6Rest => leaseWrite (.ipv6 (restOfIpv6 a.v6)) none a.type
  | .pdIfAddress => if a.type = .leaseDel then some (.text "") else none
  | .ipv4Kept | .ipv6Kept => none

def Reg.write (i : Reg) (a : DhcpEventThreadArgs) : Option RegValue :=
  if a.version = i.version then i.writeOwn a else none

theorem leaseView_takeMaptOffer (m : MaptOffer) (d : Ipv6Terms) (s : Vism) :
    leaseView (takeMaptOffer m d s) = leaseView s := by
  unfold takeMaptOffer
  split
  · rfl
  · split <;> rfl

/-- To the leases, the MAP-T option of an update is nothing. -/
theorem leaseView_update6 (ifName : String) (v4 : Ipv4Terms) (v6 : Ipv6Terms) (mapt : MaptOffer)
    (s : Vism) :
    leaseView (DhcpEventThreadArgs.apply ⟨ifName, .dhcpv6, .leaseUpdate, v4, v6, mapt⟩ s) =
      leaseView (updateInterfaceStatus (s.mapIp fun ip =>
        { ip with ipv6Data := copyDhcpv6Data ip.ipv6Data v6, ipv6Changed := true })
          .connectionIpv6Up) :=
  leaseView_takeMaptOffer mapt v6 _

theorem Reg.read_apply (i : Reg) (a : DhcpEventThreadArgs) (s : Vism) :
    i.read (leaseView (a.apply s)) = (i.write a).getD (i.read (leaseView s)) := by
  obtain ⟨ifName, version, type, v4, v6, mapt⟩ := a
  cases version with
  | dhcpv4 => cases type <;> rcases i with (_ | _) | (_ | _) | _ <;> rfl
  | dhcpv6 =>
    cases type with
    | leaseUpdate =>
      rw [leaseView_update6]
      rcases i with (_ | _) | (_ | _) | _ <;> rfl
    | _ => rcases i with (_ | _) | (_ | _) | _ <;> rfl

/-! ## Events that clash -/

/-- Both tell something, and not the same. -/
def Differ {α : Type} (o o' : Option α) : Prop := ∃ x y, o = some x ∧ o' = some y ∧ x ≠ y

/-- Two events of one family after which it matters which of them came last. -/
def Clash (a b : DhcpEventThreadArgs) : Prop :=
  a.version = b.version ∧
    (Differ (clientStatus a.type) (clientStatus b.type) ∨
      Differ (leaseStatus a.type) (leaseStatus b.type) ∨
      a.type = .leaseUpdate ∧ b.type = .leaseUpdate ∧
        match a.version with
        | .dhcpv4 => a.v4 ≠ b.v4
        | .dhcpv6 => a.v6 ≠ b.v6)

theorem Differ.map {α β : Type} {f : α → β} (hf : Function.Injective f) {o o' : Option α} :
    Differ (o.map f) (o'.map f) ↔ Differ o o' := by
  constructor
  · rintro ⟨x, y, hx, hy, hne⟩
    obtain ⟨u, rfl, rfl⟩ := Option.map_eq_some_iff.mp hx
    obtain ⟨v, rfl, rfl⟩ := Option.map_eq_some_iff.mp hy
    exact ⟨u, v, rfl, rfl, fun h => hne (h ▸ rfl)⟩
  · rintro ⟨x, y, rfl, rfl, hne⟩
    exact ⟨f x, f y, rfl, rfl, fun h => hne (hf h)⟩

/-- Two events that write a lease differently update it differently, or one deletes it. -/
theorem differ_leaseWrite {t t' : DhcpMessageType} {u u' : RegValue} {d : Option RegValue}
    (h : Differ (leaseWrite u d t) (leaseWrite u' d t')) :
    Differ (leaseStatus t) (leaseStatus t') ∨ t = .leaseUpdate ∧ t' = .leaseUpdate ∧ u ≠ u' := by
  obtain ⟨x, y, hx, hy, hne⟩ := h
  cases t <;> cases t' <;> simp_all [leaseWrite, leaseStatus, Differ]

theorem differ_leaseUpdate {t t' : DhcpMessageType} {u u' : RegValue} {d : Option RegValue}
    (ht : t = .leaseUpdate) (ht' : t' = .leaseUpdate) (hne : u ≠ u') :
    Differ (leaseWrite u d t) (leaseWrite u' d t') := by
  subst ht ht'
  exact ⟨u, u', rfl, rfl, hne⟩

/-- Events write the registers of their own family only. -/
theorem differ_write {a b : DhcpEventThreadArgs} {i : Reg} : Differ (i.write a) (i.write b) ↔
    a.version = i.version ∧ b.version = i.version ∧ Differ (i.writeOwn a) (i.writeOwn b) := by
  have hnone : ∀ o : Option RegValue, ¬ Differ none o ∧ ¬ Differ o none := by
    intro o
    constructor
    · rintro ⟨x, y, hx, -⟩
      cases hx
    · rintro ⟨x, y, -, hy, -⟩
      cases hy
  unfold Reg.write
  by_cases ha : a.version = i.version
  · by_cases hb : b.version = i.version
    · simp [ha, hb]
    · simp [ha, hb, (hnone _).2]
  · simp [ha, (hnone _).1]

theorem exists_differ_of_clash {a b : DhcpEventThreadArgs} (h : Clash a b) :
    ∃ i : Reg, Differ (i.write a) (i.write b) := by
  obtain ⟨hv, h⟩ := h
  have hown : ∀ i : Reg, a.version = i.version → Differ (i.writeOwn a) (i.writeOwn b) →
      ∃ i : Reg, Differ (i.write a) (i.write b) :=
    fun i hi hd => ⟨i, differ_write.mpr ⟨hi, hv.symm.trans hi, hd⟩⟩
  obtain hclient | hstatus | ⟨ha, hb, hlease⟩ := h
  · exact hown (.client a.version) rfl ((Differ.map fun _ _ => RegValue.client.inj).mpr hclient)
  · exact hown (.status a.version) rfl ((Differ.map fun _ _ => RegValue.status.inj).mpr hstatus)
  · cases hversion : a.version with
    | dhcpv4 =>
      rw [hversion] at hlease
      by_cases hip : a.v4.ip = b.v4.ip
      · refine hown .ipv4Rest hversion (differ_leaseUpdate ha hb fun heq => ?_)
        exact hlease (restOfIpv4_inj hip (RegValue.ipv4.inj heq))
      · exact hown .ipv4Addr hversion (differ_leaseUpdate ha hb fun heq => hip (RegValue.text.inj heq))
    | dhcpv6 =>
      rw [hversion] at hlease
      by_cases hl : a.v6.toIpv6Lease = b.v6.toIpv6Lease
      · refine hown .ipv6Rest hversion (differ_leaseUpdate ha hb fun heq => ?_)
        exact hlease (restOfIpv6_inj hl (RegValue.ipv6.inj heq))
      · exact hown .ipv6Lease hversion (differ_leaseUpdate ha hb fun heq => hl (RegValue.lease.inj heq))

theorem clash_of_differ {a b : DhcpEventThreadArgs} {i : Reg} (h : Differ (i.write a) (i.write b)) :
    Clash a b := by
  obtain ⟨hva, hvb, hd⟩ := differ_write.mp h
  refine ⟨hva.trans hvb.symm, ?_⟩
  rw [hva]
  cases i with
  | client v => exact .inl ((Differ.map fun _ _ => RegValue.client.inj).mp hd)
  | status v => exact .inr (.inl ((Differ.map fun _ _ => RegValue.status.inj).mp hd))
  | ipv4Addr =>
    refine .inr ((differ_leaseWrite hd).imp_right fun ⟨ha, hb, hu⟩ => ⟨ha, hb, fun h => hu ?_⟩)
    rw [h]
  | ipv4Rest =>
    refine .inr ((differ_leaseWrite hd).imp_right fun ⟨ha, hb, hu⟩ => ⟨ha, hb, fun h => hu ?_⟩)
    rw [h]
  | ipv6Lease =>
    refine .inr ((differ_leaseWrite hd).imp_right fun ⟨ha, hb, hu⟩ => ⟨ha, hb, fun h => hu ?_⟩)
    rw [h]
  | ipv6Rest =>
    refine .inr ((differ_leaseWrite hd).imp_right fun ⟨ha, hb, hu⟩ => ⟨ha, hb, fun h => hu ?_⟩)
    rw [h]
  | pdIfAddress =>
    obtain ⟨x, y, hx, hy, hne⟩ := hd
    simp only [Reg.writeOwn, Option.ite_none_right_eq_some] at hx hy
    exact absurd (Option.some.inj (hx.2.symm.trans hy.2)) hne
  | ipv4Kept | ipv6Kept =>
    obtain ⟨x, y, hx, -⟩ := hd
    cases hx

theorem clash_iff {a b : DhcpEventThreadArgs} :
    Clash a b ↔ ∃ i : Reg, Differ (i.write a) (i.write b) := by
  refine ⟨exists_differ_of_clash, ?_⟩
  rintro ⟨i, h⟩
  exact clash_of_differ h

end DhcpEvents
end WanManager
