import Mathlib.Logic.Relation
import WanManager.InterfaceSmLease

/-! # Lease messages

The leases of an interface come in messages: the events of the DHCP manager, and the
messages of the DHCP clients that `WanMgr_IfaceIpcMsg_handle` takes up at the start of a
tick. Either is handled under the lock of the data base, so for the state machine it
happens between two ticks. -/

namespace WanManager
open Concurrency

namespace InterfaceSm

/-! ## Messages of the DHCP clients -/

/-- The part of `ipc_dhcpv4_data_t` that is read. -/
structure Dhcpv4Msg extends Ipv4Lease where
  dhcpcInterface : String := ""
  addressAssigned : Bool := true
  isExpired : Bool := false
  mtuAssigned : Bool := false
  mtuSize : UInt32 := 0
  timeOffset : Int := 0
  isTimeOffsetAssigned : Bool := false
  timeZone : String := ""
  upstreamCurrRate : Nat := 0
  downstreamCurrRate : Nat := 0
  dhcpServerId : String := ""
  dhcpState : String := ""
  leaseTime : Nat := 0

namespace Dhcpv4Msg

/-- `WANMNGR_INTERFACE_DEFAULT_MTU_SIZE` where the message has no MTU. -/
def mtu (m : Dhcpv4Msg) : UInt32 := if m.mtuAssigned ∧ m.mtuSize ≠ 0 then m.mtuSize else 1500

/-- `wanmgr_dchpv4_get_ipc_msg_info` -/
def getIpcMsgInfo (m : Dhcpv4Msg) (d : Ipv4Data) : Ipv4Data :=
  { d with
    toIpv4Lease := m.toIpv4Lease, ifname := m.dhcpcInterface, mtuSize := m.mtu
    timeOffset := m.timeOffset, isTimeOffsetAssigned := m.isTimeOffsetAssigned, timeZone := m.timeZone
    upstreamCurrRate := m.upstreamCurrRate, downstreamCurrRate := m.downstreamCurrRate
    dhcpServerId := m.dhcpServerId, dhcpState := m.dhcpState, leaseTime := m.leaseTime }

end Dhcpv4Msg

/-- `wanmgr_handle_dhcpv4_event_data`; the broadcast address can always be computed. -/
def handleDhcpv4EventData (m : Dhcpv4Msg) (s : Vism) : Vism :=
  if m.gateway = "0.0.0.0" then
    if s.virtIf.status ≠ .standby ∧ s.virtIf.status ≠ .up then s.setStatus .valid else s
  else
    let changed := decide (s.virtIf.ip.ipv4Data.toIpv4Lease ≠ m.toIpv4Lease)
    let checked := s.mapIp fun ip =>
      { ip with restartConnectivityCheck := ip.restartConnectivityCheck || changed }
    if m.addressAssigned then
      updateInterfaceStatus (checked.mapIp fun ip => { ip with
        ipv4Changed := ip.ipv4Changed || changed
        ipv4Renewed := ip.ipv4Renewed || !changed
        ipv4Data := { m.getIpcMsgInfo ip.ipv4Data with leaseReceivedTime := s.now } }) .connectionUp
    else if m.isExpired then
      updateInterfaceStatus (checked.mapIp fun ip => { ip with ipv4Data := m.getIpcMsgInfo ip.ipv4Data })
        .connectionDown
    else checked

/-- The MAP-T option of a DHCPv6 message. -/
structure MaptOffer where
  assigned : Bool := false
  /-- the parameters are not the stored ones -/
  differs : Bool := false
  deriving DecidableEq, Repr

/-- The part of `ipc_dhcpv6_data_t` that is read. -/
structure Dhcpv6Msg extends Ipv6Data where
  isExpired : Bool := false
  mapt : MaptOffer := {}
  /-- the global address of the interface, without and with its prefix length -/
  globalAddr : Option (String × String) := none

/-- A prefix is named. -/
def hasPrefix (d : Ipv6Terms) : Bool := d.prefixAssigned && d.sitePrefix != ""

/-- It has not run out. -/
def prefixLives (d : Ipv6Terms) : Bool := d.prefixPltime != 0 && d.prefixVltime != 0

/-- Only the prefix was renewed: the address is the one held. -/
def keepAddress (cur new : Ipv6Data) : Ipv6Data :=
  if !new.addrAssigned && cur.addrAssigned && new.prefixAssigned then
    { new with address := cur.address, addrAssigned := true, addrCmd := cur.addrCmd }
  else new

/-- Only the address was renewed: `WanMgr_CopyPreviousPrefix`. -/
def keepPrefix (cur new : Ipv6Data) : Ipv6Data :=
  if !hasPrefix new.toIpv6Terms && cur.prefixAssigned && new.addrAssigned then
    { new with
      sitePrefix := cur.sitePrefix, pdIfAddress := cur.pdIfAddress, sitePrefixOld := cur.sitePrefixOld
      prefixAssigned := true, prefixCmd := cur.prefixCmd
      prefixPltime := cur.prefixPltime, prefixVltime := cur.prefixVltime }
  else new

/-- Without an address in the message, the one the interface has given itself. -/
def adoptGlobalAddr (global : Option (String × String)) (cur new : Ipv6Data) : Ipv6Data :=
  match global with
  | none => new
  | some (addr, addrPrefix) =>
    if !new.addrAssigned && cur.address != addrPrefix then { new with address := addr } else new

/-- The test for a changed configuration, to which an address or a prefix that is gone is
no change. -/
def ipv6ConfigChanged (cur new : Ipv6Data) : Bool :=
  (new.address != "" && new.address != cur.address) ||
    (new.pdIfAddress != "" && new.pdIfAddress != cur.pdIfAddress) ||
    (new.sitePrefix != "" && new.sitePrefix != cur.sitePrefix) ||
    new.nameserver != cur.nameserver || new.nameserver1 != cur.nameserver1

namespace Dhcpv6Msg

/-- `wanmgr_dchpv6_get_ipc_msg_info`: a message tells no time offset. -/
def getIpcMsgInfo (m : Dhcpv6Msg) : Ipv6Data := { m.toIpv6Data with ipv6TimeOffset := 0 }

/-- The prefix is taken back. -/
def removes (m : Dhcpv6Msg) (cur : Ipv6Data) : Bool :=
  hasPrefix m.toIpv6Terms && !(m.prefixCmd == .add && prefixLives m.toIpv6Terms) &&
    cur.sitePrefix == m.sitePrefix

/-- The lease in which the message and the one held come together. -/
def merged (m : Dhcpv6Msg) (cur : Ipv6Data) : Ipv6Data :=
  keepPrefix cur (keepAddress cur m.getIpcMsgInfo)

/-- `connected` -/
def connects (m : Dhcpv6Msg) (cur : Ipv6Data) : Bool :=
  (m.addrAssigned && m.addrCmd == .add) ||
    (hasPrefix m.toIpv6Terms && m.prefixCmd == .add && prefixLives m.toIpv6Terms) ||
    (!(m.merged cur).addrAssigned && m.globalAddr.isSome)

end Dhcpv6Msg

/-- `FEATURE_MAPT` in the handlers of a DHCPv6 lease. -/
def takeMaptOffer (m : MaptOffer) (d : Ipv6Terms) (s : Vism) : Vism :=
  if m.assigned then
    updateInterfaceStatus (s.mapMap fun p => { p with maptChanged := p.maptChanged || m.differs })
      .maptStart
  else if hasPrefix d && prefixLives d then updateInterfaceStatus s .maptStop
  else s

/-- The interface once a prefix was taken back. -/
def removePrefix (m : Dhcpv6Msg) (s : Vism) : Vism :=
  if m.removes s.virtIf.ip.ipv6Data then updateInterfaceStatus s .connectionIpv6Down else s

/-- The lease a message leaves behind. -/
def newIpv6Data (m : Dhcpv6Msg) (s : Vism) : Ipv6Data :=
  adoptGlobalAddr m.globalAddr (removePrefix m s).virtIf.ip.ipv6Data (m.merged s.virtIf.ip.ipv6Data)

/-- Whether it raises `Ipv6Changed`. -/
def raisesIpv6Changed (m : Dhcpv6Msg) (s : Vism) : Bool :=
  ipv6ConfigChanged (removePrefix m s).virtIf.ip.ipv6Data (newIpv6Data m s)

/-- `wanmgr_handle_dhcpv6_event_data` -/
def handleDhcpv6EventData (m : Dhcpv6Msg) (s : Vism) : Vism :=
  if m.isExpired then updateInterfaceStatus s .connectionIpv6Down
  else
    let changed := raisesIpv6Changed m s
    let next :=
      if m.connects s.virtIf.ip.ipv6Data then
        (removePrefix m s).mapIp fun ip => { ip with
          ipv6Changed := ip.ipv6Changed || changed
          restartConnectivityCheck := ip.restartConnectivityCheck || changed
          ipv6Renewed := ip.ipv6Renewed || !changed
          ipv6Data := newIpv6Data m s
          ipv6Status := .up }
      else removePrefix m s
    takeMaptOffer m.mapt m.toIpv6Terms next

/-! ## Events of the DHCP manager -/

/-- `copyDhcpv4Data` -/
def copyDhcpv4Data (cur : Ipv4Data) (new : Ipv4Terms) : Ipv4Data := { cur with toIpv4Terms := new }

/-- `copyDhcpv6Data` -/
def copyDhcpv6Data (cur : Ipv6Data) (new : Ipv6Terms) : Ipv6Data := { cur with toIpv6Terms := new }

inductive LeaseMessage where
  | dhcpv4Client (st : DhcpcStatus)
  | dhcpv4Renew
  | dhcpv4Del
  | dhcpv4Update (d : Ipv4Terms)
  | dhcpv6Client (st : DhcpcStatus)
  | dhcpv6Renew
  | dhcpv6Del
  | dhcpv6Update (d : Ipv6Terms) (mapt : MaptOffer)
  | ipcDhcpv4 (m : Dhcpv4Msg)
  | ipcDhcpv6 (m : Dhcpv6Msg)

/-- `WanMgr_DhcpClientEventsHandler_Thread` and `WanMgr_IfaceIpcMsg_handle` -/
def LeaseMessage.handle (s : Vism) : LeaseMessage → Vism
  | .dhcpv4Client st => s.mapIp fun ip => { ip with dhcp4cStatus := st }
  | .dhcpv4Renew =>
      updateInterfaceStatus (s.mapIp fun ip => { ip with ipv4Renewed := true }) .connectionUp
  | .dhcpv4Del => updateInterfaceStatus s .connectionDown
  | .dhcpv4Update d =>
      updateInterfaceStatus (s.mapIp fun ip =>
        { ip with ipv4Data := copyDhcpv4Data ip.ipv4Data d, ipv4Changed := true }) .connectionUp
  | .dhcpv6Client st => s.mapIp fun ip => { ip with dhcp6cStatus := st }
  | .dhcpv6Renew =>
      updateInterfaceStatus (s.mapIp fun ip => { ip with ipv6Renewed := true }) .connectionIpv6Up
  | .dhcpv6Del => updateInterfaceStatus s .connectionIpv6Down
  | .dhcpv6Update d mapt =>
      takeMaptOffer mapt d (updateInterfaceStatus (s.mapIp fun ip =>
        { ip with ipv6Data := copyDhcpv6Data ip.ipv6Data d, ipv6Changed := true }) .connectionIpv6Up)
  | .ipcDhcpv4 m => handleDhcpv4EventData m s
  | .ipcDhcpv6 m => handleDhcpv6EventData m s

/-- `WanMgr_GetVIfByName_VISM_running_locked`: a message for a machine that does not run is
lost. -/
def deliver (m : LeaseMessage) (s : Vism) : Vism :=
  if s.virtIf.interfaceSmRunning then m.handle s else s

/-! ## The surroundings of a state machine -/

inductive LeaseEvent where
  | message (m : LeaseMessage)
  /-- `SYSEVENT_GLOBAL_IPV6_PREFIX_CLEAR` -/
  | prefixClear
  /-- the parameter `IPv4Status` of the data model is set to `Up` or `Down` -/
  | writeIpv4Status (up : Bool)
  | writeIpv6Status (up : Bool)
  /-- another interface sets the sysevent `ipv6_connection_state` -/
  | ipv6ConnectionState (up : Bool)

def LeaseEvent.apply (s : Vism) : LeaseEvent → Vism
  | .message m => deliver m s
  | .prefixClear => updateInterfaceStatus s .connectionIpv6Down
  | .writeIpv4Status up => s.mapIp fun ip => { ip with ipv4Status := if up then .up else .down }
  | .writeIpv6Status up => s.mapIp fun ip => { ip with ipv6Status := if up then .up else .down }
  | .ipv6ConnectionState up => { s with ipv6ConnectionState := up }

/-- The account of IPv4, which only the state machine and the lease events write. -/
structure Account4 where
  status : LeaseStatus
  changed : Bool
  lease : Ipv4Lease
  applied : Option Ipv4Lease

def account4 (s : Vism) : Account4 where
  status := s.virtIf.ip.ipv4Status
  changed := s.virtIf.ip.ipv4Changed
  lease := s.virtIf.ip.ipv4Data.toIpv4Lease
  applied := s.applied.ipv4

/-- The account of IPv6. The timer is the one MAP-T is waited for with. -/
structure Account6 where
  status : LeaseStatus
  changed : Bool
  lease : Ipv6Lease
  conn : Bool
  lanPrefix : Option Ipv6Lease
  applied : Option Ipv6Lease
  selectedMode : PreferredMode
  timer : TimerStatus

def account6 (s : Vism) : Account6 where
  status := s.virtIf.ip.ipv6Status
  changed := s.virtIf.ip.ipv6Changed
  lease := s.virtIf.ip.ipv6Data.toIpv6Lease
  conn := s.ipv6ConnectionState
  lanPrefix := s.applied.lanPrefix
  applied := s.applied.ipv6
  selectedMode := s.virtIf.ip.selectedMode
  timer := s.virtIf.ip.selectedModeTimerStatus

/-- One step of the surroundings. What is no lease event is the PHY, the selection, the
configuration, the clock, or an answer of the bus. -/
inductive Surround (allowed : LeaseEvent → Vism → Prop) (s : Vism) : Vism → Prop
  | event (e : LeaseEvent) : allowed e s → Surround allowed s (e.apply s)
  | other {u} : u.phase = s.phase → account4 u = account4 s → account6 u = account6 s →
      Surround allowed s u

/-- An interface state machine whose leases come in messages. -/
def vismLeasing (allowed : LeaseEvent → Vism → Prop) : Reactive Site Vism where
  tick := vismTick
  env := Relation.ReflTransGen (Surround allowed)

end InterfaceSm
end WanManager
