import Mathlib.Logic.Relation
import WanManager.DnsServers
import WanManager.LeaseMessages

/-! # Leases that are asked for

The lease of a cellular modem or of PPP comes in no message. The manager asks for it on the bus, one
parameter after the other, and fills the room of a message with the answers; the message is then taken
up like one of a DHCP client, at once or by `WanMgr_IfaceIpcMsg_handle` in the next tick. -/

namespace WanManager.QueriedLeases
open InterfaceSm ResolvConf Text

/-! ## The bus -/

/-- The answer to a query; a parameter without a value leaves the buffer empty. -/
inductive Answer where
  | failed
  | text (value : String)
  deriving DecidableEq, Repr

def Answer.value : Answer → String
  | .failed => ""
  | .text value => value

/-- `WanMgr_RdkBus_GetParamValues` copies a text whatever the size of the buffer. -/
def Answer.Fits (size : Nat) (a : Answer) : Prop := a.value.length < size

instance (size : Nat) (a : Answer) : Decidable (a.Fits size) := inferInstanceAs (Decidable (_ < _))

/-! ## The message -/

/-- `strncpy` to an array of zeros. A text that fills the array has no end there. -/
def strncpy (size : Nat) (value : String) : String := String.ofList (value.toList.take size)

/-- A virtual interface with its state machine and the message that is not taken up yet. -/
structure QueriedVif where
  name : String := ""
  sm : Vism
  pIpcIpv4Data : Option Dhcpv4Msg := none

namespace QueriedVif

def ipv4Status (v : QueriedVif) : LeaseStatus := v.sm.virtIf.ip.ipv4Status

def ipv4Data (v : QueriedVif) : Ipv4Data := v.sm.virtIf.ip.ipv4Data

def mtuSize (v : QueriedVif) : UInt32 := v.ipv4Data.mtuSize

def ppp (v : QueriedVif) : PppData := v.sm.virtIf.ppp

/-- `wanmgr_handle_dhcpv4_event_data`, which finds the message and frees it. -/
def handleDhcpv4EventData (v : QueriedVif) : QueriedVif :=
  match v.pIpcIpv4Data with
  | none => v
  | some m => { v with sm := InterfaceSm.handleDhcpv4EventData m v.sm, pIpcIpv4Data := none }

end QueriedVif

/-- What a call leaves, whether a query of it failed, and the texts it had `IsValidIpAddress` test,
where `none` is NULL. -/
structure Outcome where
  vif : QueriedVif
  failed : Bool := false
  checked : List (Option String) := []

/-! ## The lease of a cellular modem -/

/-- The answers of the CellularManager, in the order of the queries. -/
structure CellularAnswers where
  ipAddress : Answer
  gateway : Answer
  primaryDns : Answer
  secondaryDns : Answer
  subnetMask : Answer
  mtuSize : Answer
  ipv6Address : Answer

/-- A query, and what is done with the text of its answer. -/
structure Query where
  answer : Answer
  store : String → Dhcpv4Msg → Dhcpv4Msg

/-- Without a text the message does not say that there is an address. -/
def required (store : String → Dhcpv4Msg → Dhcpv4Msg) (text : String) (m : Dhcpv4Msg) :
    Dhcpv4Msg :=
  if text ≠ "" then store text m else { m with dhcpState := "Down", addressAssigned := false }

/-- The queries of IPv4. -/
def queries (name : String) (q : CellularAnswers) : List Query :=
  [⟨q.ipAddress, required fun text m => { m with ip := strncpy 32 text }⟩,
    ⟨q.gateway, required fun text m => { m with gateway := strncpy 32 text }⟩,
    ⟨q.primaryDns, required fun text m => { m with dnsServer := strncpy 64 text }⟩,
    ⟨q.secondaryDns, fun text m => { m with
      dnsServer1 := if text ≠ "" then strncpy 64 text else m.dnsServer1
      dhcpcInterface := name }⟩,
    ⟨q.subnetMask, required fun text m => { m with mask := strncpy 32 text }⟩,
    ⟨q.mtuSize, required fun text m => { m with mtuSize := atoi text.toList, mtuAssigned := true }⟩]

/-- The queries one after the other, up to the first that fails; `none` when a text runs over the end of
`acTmpReturnValue`. -/
def fill : List Query → Dhcpv4Msg → Option (Bool × Dhcpv4Msg)
  | [], m => some (true, m)
  | q :: qs, m =>
    match q.answer with
    | .failed => some (false, m)
    | .text value => if value.length < 256 then fill qs (q.store value m) else none

/-- The query for the IPv6 address, which is passed on to the DHCPv6 client. -/
def queryIpv6 (q : CellularAnswers) (v : QueriedVif) : Option Outcome :=
  if q.ipv6Address.Fits 256 then some { vif := v, failed := q.ipv6Address = .failed } else none

/-- `WanMgr_UpdateIpFromCellularMgr`; `memory` is whether there is some. -/
def updateIpFromCellularMgr (memory : Bool) (q : CellularAnswers) (v : QueriedVif) : Option Outcome :=
  if v.pIpcIpv4Data.isNone ∧ v.ipv4Status = .down ∧ memory then
    match fill (queries v.name q) { addressAssigned := true } with
    | none => none
    | some (false, m) => some { vif := { v with pIpcIpv4Data := some m }, failed := true }
    | some (true, m) => queryIpv6 q ({ v with pIpcIpv4Data := some m }.handleDhcpv4EventData)
  else queryIpv6 q v

/-! ## The lease of PPP -/

/-- The answers of the PppManager, in the order of the queries. -/
structure PppAnswers where
  localIpAddress : Answer
  remoteIpAddress : Answer
  dnsServers : Answer

/-- The entries of a list, as `strtok` finds them. -/
def tokens (list : String) : List String :=
  ((list.toList.splitOn ',').filter (· ≠ [])).map String.ofList

/-- `IsValidIpAddress` for `AF_INET`, which knows no address at NULL. -/
def isValidIpv4 (address : Option String) : Bool := address.any (isValidIpAddress inetPton .inet)

/-- The name servers of a list. -/
def storeDnsServers (list : String) (m : Dhcpv4Msg) : Dhcpv4Msg × List (Option String) :=
  match tokens list with
  | [] => (m, [])
  | token :: rest =>
    let m := { m with dnsServer := buffer 64 token }
    let token := rest.head?
    (if isValidIpv4 token then { m with dnsServer1 := buffer 64 (token.getD "") } else m, [token])

def QueriedVif.setIpcp (v : QueriedVif) (st : IpcpStatus) : QueriedVif :=
  { v with sm := v.sm.mapPpp fun p => { p with ipcpStatus := st, ipv6cpStatus := st } }

/-- `IPCPStateChangeHandler` once both addresses are known to be valid. -/
def ipcpLease (memory : Bool) (q : PppAnswers) (localIp remoteIp : String) (v : QueriedVif) :
    Option Outcome :=
  let checked := [some localIp, some remoteIp]
  let v := v.setIpcp .up
  let m : Dhcpv4Msg := {
    addressAssigned := true
    dhcpState := "Up"
    ip := buffer 32 localIp
    gateway := buffer 32 remoteIp }
  -- the memory is cleared without a test for NULL
  if memory then
    match q.dnsServers with
    | .failed => some ⟨{ v with pIpcIpv4Data := some m }, true, checked⟩
    | .text list =>
      let (m, tested) := storeDnsServers list m
      let m := { m with dhcpcInterface := v.name, mask := "255.255.255.255" }
      if list.length < 256 then some ⟨{ v with pIpcIpv4Data := some m }, false, checked ++ tested⟩
      else none
  else none

/-- `IPCPStateChangeHandler` -/
def ipcpStateChangeHandler (memory : Bool) (q : PppAnswers) (v : QueriedVif) : Option Outcome :=
  if v.pIpcIpv4Data.isSome then some { vif := v }
  else match q.localIpAddress, q.remoteIpAddress with
    | .failed, _ => some { vif := v, failed := true }
    | .text localIp, remote =>
      if localIp.length < 128 then
        match remote with
        | .failed => some { vif := v, failed := true }
        | .text remoteIp =>
          if remoteIp.length < 128 then
            if !isValidIpv4 (some localIp) then some { vif := v.setIpcp .down, checked := [some localIp] }
            else if !isValidIpv4 (some remoteIp) then
              some { vif := v.setIpcp .down, checked := [some localIp, some remoteIp] }
            else ipcpLease memory q localIp remoteIp v
          else none
      else none

/-! ## The ticks -/

/-- The state of IPCP has changed, and IPv4 comes from PPP. -/
def asksPpp (s : Vism) : Bool :=
  s.virtIf.ppp.enable && s.virtIf.ppp.ipcpStatusChanged && s.virtIf.ip.ipv4Source == .ppp &&
    (s.virtIf.ip.mode == .ipv4Only || s.virtIf.ip.mode == .dualStack)

/-- `WanMgr_IfaceIpcMsg_handle`, less the messages of DHCPv6. -/
def ifaceIpcMsgHandle (memory : Bool) (q : PppAnswers) (v : QueriedVif) : Option QueriedVif :=
  let asked := if asksPpp v.sm then (ipcpStateChangeHandler memory q v).map (·.vif) else some v
  asked.map fun v => { v with sm := ipcMsgHandle v.sm }.handleDhcpv4EventData

/-- A virtual interface after a call, and whether the message with it was left by the call. -/
structure After where
  vif : QueriedVif
  fromCall : Bool

/-- A later tick takes up the message at its start; everything else leaves a message where it is. -/
inductive Later : After → After → Prop
  | tick (a memory q v) : ifaceIpcMsgHandle memory q a.vif = some v → Later a ⟨v, false⟩
  | other (a v) : (a.fromCall → v.pIpcIpv4Data = a.vif.pIpcIpv4Data) → Later a ⟨v, a.fromCall⟩

/-! ## The calls -/

inductive Call where
  | cellular (memory : Bool) (q : CellularAnswers)
  | ipcp (memory : Bool) (q : PppAnswers)

def Call.run : Call → QueriedVif → Option Outcome
  | .cellular memory q, v => updateIpFromCellularMgr memory q v
  | .ipcp memory q, v => ipcpStateChangeHandler memory q v

/-- The answers without which there is no lease. -/
def CellularAnswers.mandatory (q : CellularAnswers) : List Answer :=
  [q.ipAddress, q.gateway, q.primaryDns, q.subnetMask, q.mtuSize]

/-- Every mandatory query has got a text. -/
def Call.Granted : Call → Prop
  | .cellular _ q => ∀ a ∈ q.mandatory, a.value ≠ ""
  | .ipcp _ q => q.localIpAddress.value ≠ "" ∧ q.remoteIpAddress.value ≠ "" ∧ q.dnsServers ≠ .failed

/-- A field of so many characters holds a text, and its end. -/
def Holds (size : Nat) (field text : String) : Prop := field = text ∧ text.length < size

/-- The second server of a list, when it is an address. -/
def secondServer (list : String) : String :=
  (((tokens list)[1]?).filter fun token => isValidIpv4 (some token)).getD ""

/-- `Ipv4Data` has the values of the answers. -/
def Call.Stored : Call → QueriedVif → Prop
  | .cellular _ q, v =>
    Holds 32 v.ipv4Data.ip q.ipAddress.value ∧ Holds 32 v.ipv4Data.gateway q.gateway.value ∧
      Holds 64 v.ipv4Data.dnsServer q.primaryDns.value ∧ Holds 32 v.ipv4Data.mask q.subnetMask.value ∧
      v.mtuSize = atoi q.mtuSize.value.toList
  | .ipcp _ q, v =>
    Holds 32 v.ipv4Data.ip q.localIpAddress.value ∧
      Holds 32 v.ipv4Data.gateway q.remoteIpAddress.value ∧
      Holds 64 v.ipv4Data.dnsServer ((tokens q.dnsServers.value).headD "") ∧
      Holds 64 v.ipv4Data.dnsServer1 (secondServer q.dnsServers.value)

/-- What a call may do: a query that fails changes nothing, and the interface gets an address from the
call, at once or in any later tick, only when every mandatory query has got a text. -/
structure NoFalseLease (c : Call) (v : QueriedVif) (o : Outcome) : Prop where
  kept : o.failed → o.vif.pIpcIpv4Data = v.pIpcIpv4Data ∧
    o.vif.ppp.ipcpStatus = v.ppp.ipcpStatus ∧ o.vif.ppp.ipv6cpStatus = v.ppp.ipv6cpStatus
  atOnce : v.ipv4Status ≠ .up → o.vif.ipv4Status = .up → c.Granted ∧ c.Stored o.vif
  later : ∀ a memory q v',
    Relation.ReflTransGen Later ⟨o.vif, v.pIpcIpv4Data.isNone && o.vif.pIpcIpv4Data.isSome⟩ a →
      a.fromCall → ifaceIpcMsgHandle memory q a.vif = some v' →
      a.vif.ipv4Status ≠ .up → v'.ipv4Status = .up → c.Granted ∧ c.Stored v'
  checked : none ∉ o.checked

/-- The call returns and does so. -/
def Lawful (c : Call) (v : QueriedVif) : Prop := ∃ o, c.run v = some o ∧ NoFalseLease c v o

/-! ## When it does -/

def CellularAnswers.ipv4 (q : CellularAnswers) : List Answer :=
  [q.ipAddress, q.gateway, q.primaryDns, q.secondaryDns, q.subnetMask, q.mtuSize]

/-- The texts have room in the message, and the MTU is a number other than zero. -/
structure CellularAnswers.Storable (q : CellularAnswers) : Prop where
  ip : q.ipAddress.Fits 32
  gateway : q.gateway.Fits 32
  dnsServer : q.primaryDns.Fits 64
  mask : q.subnetMask.Fits 32
  mtu : atoi q.mtuSize.value.toList ≠ 0

/-- No query of IPv4 fails, and no text is too long where it is put. -/
def CellularAnswers.Safe (q : CellularAnswers) : Prop :=
  (∀ a ∈ q.ipv4, a ≠ .failed ∧ a.Fits 256) ∧
    ((∀ a ∈ q.mandatory, a.value ≠ "") → q.gateway.value ≠ "0.0.0.0" → q.Storable)

/-- The list of the servers is there. It has none or more than one, and the first has room. -/
def ListSafe (a : Answer) : Prop :=
  a ≠ .failed ∧ a.Fits 256 ∧ (tokens a.value).length ≠ 1 ∧ ∀ token ∈ (tokens a.value).head?, token.length < 64

def PppAnswers.Safe (memory : Bool) (q : PppAnswers) : Prop :=
  q.localIpAddress.Fits 128 ∧ (q.localIpAddress ≠ .failed → q.remoteIpAddress.Fits 128) ∧
    (isValidIpv4 (some q.localIpAddress.value) → isValidIpv4 (some q.remoteIpAddress.value) →
      memory ∧ ListSafe q.dnsServers)

/-- Under what answers a call is lawful. -/
def Call.Safe : Call → QueriedVif → Prop
  | .cellular memory q, v =>
    (v.pIpcIpv4Data = none → v.ipv4Status = .down → memory → q.Safe) ∧ q.ipv6Address.Fits 256
  | .ipcp memory q, v => v.pIpcIpv4Data = none → q.Safe memory

/-! ## Taking a message up -/

section Handle

variable {v : QueriedVif} {m : Dhcpv4Msg}

theorem handleDhcpv4EventData_slot : v.handleDhcpv4EventData.pIpcIpv4Data = none := by
  unfold QueriedVif.handleDhcpv4EventData
  split
  · assumption
  · rfl

theorem handleDhcpv4EventData_ppp : v.handleDhcpv4EventData.ppp = v.ppp := by
  unfold QueriedVif.handleDhcpv4EventData
  split
  · rfl
  · next m _ =>
    simp only [QueriedVif.ppp, InterfaceSm.handleDhcpv4EventData]
    split_ifs <;> rfl

/-- The message does not bring an address. -/
theorem handleDhcpv4EventData_ipv4Status (hm : v.pIpcIpv4Data = some m) (hlive : m.isExpired = false)
    (hnone : ¬ (m.gateway ≠ "0.0.0.0" ∧ m.addressAssigned)) :
    v.handleDhcpv4EventData.ipv4Status = v.ipv4Status := by
  simp only [QueriedVif.handleDhcpv4EventData, hm, QueriedVif.ipv4Status,
    InterfaceSm.handleDhcpv4EventData, hlive]
  by_cases hgateway : m.gateway = "0.0.0.0"
  · rw [if_pos hgateway]
    split_ifs <;> rfl
  · have hassigned : ¬ m.addressAssigned := fun h => hnone ⟨hgateway, h⟩
    rw [if_neg hgateway, if_neg hassigned]
    rfl

/-- The message brings an address. -/
theorem handleDhcpv4EventData_up (hm : v.pIpcIpv4Data = some m) (hgateway : m.gateway ≠ "0.0.0.0")
    (hassigned : m.addressAssigned) :
    v.handleDhcpv4EventData.ipv4Status = .up ∧
      v.handleDhcpv4EventData.ipv4Data.toIpv4Lease = m.toIpv4Lease ∧
      v.handleDhcpv4EventData.mtuSize = m.mtu := by
  simp only [QueriedVif.handleDhcpv4EventData, hm, QueriedVif.ipv4Status, QueriedVif.ipv4Data,
    QueriedVif.mtuSize, InterfaceSm.handleDhcpv4EventData, if_neg hgateway, if_pos hassigned]
  exact ⟨rfl, rfl, rfl⟩

end Handle

/-! ## The ticks after a call -/

/-- The message of the call is still there. -/
theorem later_message {a b : After} (h : Relation.ReflTransGen Later a b) (hb : b.fromCall = true) :
    a.fromCall = true ∧ b.vif.pIpcIpv4Data = a.vif.pIpcIpv4Data := by
  induction h with
  | refl => exact ⟨hb, rfl⟩
  | tail _ hstep ih =>
    cases hstep with
    | tick => cases hb
    | other v hkept =>
      obtain ⟨hfrom, hmsg⟩ := ih hb
      exact ⟨hfrom, (hkept hb).trans hmsg⟩

/-- With a message there, a tick asks PPP for nothing. -/
theorem ifaceIpcMsgHandle_message {memory : Bool} {q : PppAnswers} {v : QueriedVif} {m : Dhcpv4Msg}
    (hm : v.pIpcIpv4Data = some m) : ifaceIpcMsgHandle memory q v =
      some { v with sm := ipcMsgHandle v.sm }.handleDhcpv4EventData := by
  have hcall : ipcpStateChangeHandler memory q v = some { vif := v } := by
    simp [ipcpStateChangeHandler, hm]
  simp [ifaceIpcMsgHandle, hcall]

/-- What a tick makes of the message. -/
theorem tick_message {memory : Bool} {q : PppAnswers} {v v' : QueriedVif} {m : Dhcpv4Msg}
    (hm : v.pIpcIpv4Data = some m) (hlive : m.isExpired = false)
    (htick : ifaceIpcMsgHandle memory q v = some v') (hbefore : v.ipv4Status ≠ .up)
    (hafter : v'.ipv4Status = .up) :
    m.gateway ≠ "0.0.0.0" ∧ m.addressAssigned ∧ v'.ipv4Data.toIpv4Lease = m.toIpv4Lease ∧
      v'.mtuSize = m.mtu := by
  rw [ifaceIpcMsgHandle_message hm] at htick
  obtain rfl := Option.some.inj htick
  by_cases hup : m.gateway ≠ "0.0.0.0" ∧ m.addressAssigned
  · obtain ⟨-, hdata, hmtu⟩ :=
      @handleDhcpv4EventData_up { v with sm := ipcMsgHandle v.sm } m hm hup.1 hup.2
    exact ⟨hup.1, hup.2, hdata, hmtu⟩
  · have hsame := @handleDhcpv4EventData_ipv4Status { v with sm := ipcMsgHandle v.sm } m hm hlive hup
    exact absurd (hsame.symm.trans hafter) hbefore

/-! ## The queries of a cellular modem -/

section Cellular

variable {qs : List Query} {m m' : Dhcpv4Msg} {q : CellularAnswers} {v : QueriedVif} {memory : Bool}

/-- A message with all the texts stored in it. -/
def storeAll (qs : List Query) (m : Dhcpv4Msg) : Dhcpv4Msg :=
  qs.foldl (fun m q => q.store q.answer.value m) m

theorem fill_eq_done (h : ∀ q ∈ qs, q.answer ≠ .failed ∧ q.answer.Fits 256) :
    fill qs m = some (true, storeAll qs m) := by
  induction qs generalizing m with
  | nil => rfl
  | cons q qs ih =>
    obtain ⟨⟨hanswer, hfits⟩, hrest⟩ := List.forall_mem_cons.mp h
    cases hq : q.answer with
    | failed => exact absurd hq hanswer
    | text value =>
      rw [hq] at hfits
      have hlength : value.length < 256 := hfits
      simp only [fill, hq, if_pos hlength]
      rw [ih hrest]
      simp [storeAll, hq, Answer.value]

theorem of_fill_eq_done (h : fill qs m = some (true, m')) :
    ∀ q ∈ qs, q.answer ≠ .failed ∧ q.answer.Fits 256 := by
  induction qs generalizing m with
  | nil => simp
  | cons q qs ih =>
    unfold fill at h
    split at h
    · cases h
    · next value hq =>
      split at h
      · next hlength =>
        rw [List.forall_mem_cons, hq]
        exact ⟨⟨by simp, hlength⟩, ih h⟩
      · cases h

theorem queries_answers (name : String) : (queries name q).map (·.answer) = q.ipv4 := rfl

theorem forall_queries {P : Answer → Prop} (name : String) :
    (∀ x ∈ queries name q, P x.answer) ↔ ∀ a ∈ q.ipv4, P a := by
  rw [← queries_answers name, List.forall_mem_map]

/-- The message with the texts of all the answers. -/
def message (name : String) (q : CellularAnswers) : Dhcpv4Msg :=
  storeAll (queries name q) { addressAssigned := true }

theorem required_addressAssigned {store : String → Dhcpv4Msg → Dhcpv4Msg} {text : String}
    (h : (store text m).addressAssigned = m.addressAssigned) :
    (required store text m).addressAssigned = true ↔ text ≠ "" ∧ m.addressAssigned = true := by
  unfold required
  split
  · next htext => simp [h, htext]
  · next htext => simp_all

theorem message_addressAssigned (name : String) :
    (message name q).addressAssigned = true ↔ ∀ a ∈ q.mandatory, a.value ≠ "" := by
  simp only [message, storeAll, queries, List.foldl_cons, List.foldl_nil]
  simp [required_addressAssigned, CellularAnswers.mandatory]
  tauto

theorem message_isExpired (name : String) : (message name q).isExpired = false := by
  simp only [message, storeAll, queries, List.foldl_cons, List.foldl_nil, required]
  split_ifs <;> rfl

/-- The message when every mandatory query has got a text. -/
theorem message_granted (name : String) (h : ∀ a ∈ q.mandatory, a.value ≠ "") :
    (message name q).ip = strncpy 32 q.ipAddress.value ∧
      (message name q).gateway = strncpy 32 q.gateway.value ∧
      (message name q).dnsServer = strncpy 64 q.primaryDns.value ∧
      (message name q).mask = strncpy 32 q.subnetMask.value ∧
      (message name q).mtuAssigned = true ∧ (message name q).mtuSize = atoi q.mtuSize.value.toList := by
  simp only [CellularAnswers.mandatory, List.forall_mem_cons, List.not_mem_nil, false_imp_iff,
    implies_true, and_true] at h
  obtain ⟨hip, hgateway, hdns, hmask, hmtu⟩ := h
  simp only [message, storeAll, queries, List.foldl_cons, List.foldl_nil, required, if_pos hip,
    if_pos hgateway, if_pos hdns, if_pos hmask, if_pos hmtu, and_self]

theorem strncpy_eq_self {size : Nat} {value : String} (h : value.length < size) :
    strncpy size value = value := by
  have hlength : value.toList.length ≤ size := by
    rw [String.length_toList]
    omega
  rw [strncpy, List.take_of_length_le hlength, String.ofList_toList]

theorem holds_strncpy {size : Nat} {value : String} :
    Holds size (strncpy size value) value ↔ value.length < size :=
  ⟨And.right, fun h => ⟨strncpy_eq_self h, h⟩⟩

/-- A gateway that is copied is zero only when the text is. -/
theorem strncpy_eq_zero {value : String} : strncpy 32 value = "0.0.0.0" ↔ value = "0.0.0.0" := by
  constructor
  · intro h
    have hlength : (strncpy 32 value).length = 7 := by rw [h]; decide
    rw [strncpy, String.length_ofList, List.length_take, String.length_toList] at hlength
    rw [← h, strncpy_eq_self (by omega)]
  · rintro rfl
    decide

theorem mtu_eq_iff {m : Dhcpv4Msg} (h : m.mtuAssigned = true) : m.mtu = m.mtuSize ↔ m.mtuSize ≠ 0 := by
  unfold Dhcpv4Msg.mtu
  constructor
  · intro heq hzero
    rw [hzero] at heq
    simp at heq
  · intro hne
    rw [if_pos ⟨h, hne⟩]

/-- The values arrive exactly when the texts can be stored. -/
theorem stored_message (name : String) (h : ∀ a ∈ q.mandatory, a.value ≠ "")
    (hdata : v.ipv4Data.toIpv4Lease = (message name q).toIpv4Lease)
    (hmtu : v.mtuSize = (message name q).mtu) :
    (Call.cellular memory q).Stored v ↔ q.Storable := by
  obtain ⟨hip, hgateway, hdns, hmask, hassigned, hsize⟩ := message_granted name h
  have hmtuIff : v.mtuSize = atoi q.mtuSize.value.toList ↔ atoi q.mtuSize.value.toList ≠ 0 := by
    rw [hmtu, ← hsize]
    exact mtu_eq_iff hassigned
  simp only [Call.Stored, hdata, hip, hgateway, hdns, hmask, holds_strncpy, hmtuIff]
  constructor
  · rintro ⟨hip, hgateway, hdns, hmask, hne⟩
    exact ⟨hip, hgateway, hdns, hmask, hne⟩
  · intro hstorable
    exact ⟨hstorable.ip, hstorable.gateway, hstorable.dnsServer, hstorable.mask, hstorable.mtu⟩

/-! ## Both kinds of calls -/

/-- With the message as it was, nothing of the call is left for a tick. -/
theorem later_false {v w : QueriedVif} {a : After} (hmsg : w.pIpcIpv4Data = v.pIpcIpv4Data)
    (h : Relation.ReflTransGen Later ⟨w, v.pIpcIpv4Data.isNone && w.pIpcIpv4Data.isSome⟩ a) :
    a.fromCall = false := by
  cases ha : a.fromCall with
  | false => rfl
  | true =>
    have hstart := (later_message h ha).1
    rw [hmsg] at hstart
    cases hv : v.pIpcIpv4Data <;> simp [hv] at hstart

/-- A call that does nothing with IPv4. -/
theorem noFalseLease_quiet {c : Call} {o : Outcome} (hmsg : o.vif.pIpcIpv4Data = v.pIpcIpv4Data)
    (hstatus : o.vif.ipv4Status = v.ipv4Status) (hppp : o.failed → o.vif.ppp = v.ppp)
    (hchecked : none ∉ o.checked) : NoFalseLease c v o := by
  constructor
  · intro hfailed
    rw [hppp hfailed]
    exact ⟨hmsg, rfl, rfl⟩
  · intro hbefore hafter
    exact absurd (hstatus.symm.trans hafter) hbefore
  · intro a _ _ _ h ha
    rw [later_false hmsg h] at ha
    cases ha
  · exact hchecked

theorem queryIpv6_eq_some {o : Outcome} : queryIpv6 q v = some o ↔
    q.ipv6Address.Fits 256 ∧ o = { vif := v, failed := q.ipv6Address = .failed } := by
  unfold queryIpv6
  split
  · next h => simp [h, eq_comm]
  · next h => simp [h]

/-! ## A cellular modem -/

/-- The call has asked for a lease and got all the answers. -/
theorem cellular_lawful (hmsg : v.pIpcIpv4Data = none) (hsafe : q.Safe)
    (hrun : updateIpFromCellularMgr memory q v =
      queryIpv6 q { v with pIpcIpv4Data := some (message v.name q) }.handleDhcpv4EventData)
    (hipv6 : q.ipv6Address.Fits 256) : Lawful (.cellular memory q) v := by
  refine ⟨_, hrun.trans (queryIpv6_eq_some.mpr ⟨hipv6, rfl⟩), ?_⟩
  have hlive := message_isExpired (q := q) v.name
  constructor
  · intro _
    rw [handleDhcpv4EventData_ppp, handleDhcpv4EventData_slot]
    exact ⟨hmsg.symm, rfl, rfl⟩
  · intro hbefore hafter
    by_cases hup : (message v.name q).gateway ≠ "0.0.0.0" ∧ (message v.name q).addressAssigned
    · obtain ⟨hgateway, hassigned⟩ := hup
      have hgranted := (message_addressAssigned v.name).mp hassigned
      obtain ⟨-, hdata, hmtu⟩ := @handleDhcpv4EventData_up
        { v with pIpcIpv4Data := some (message v.name q) } _ rfl hgateway hassigned
      refine ⟨hgranted, (stored_message v.name hgranted hdata hmtu).mpr (hsafe.2 hgranted ?_)⟩
      rwa [(message_granted v.name hgranted).2.1, ne_eq, strncpy_eq_zero] at hgateway
    · have hsame := @handleDhcpv4EventData_ipv4Status
        { v with pIpcIpv4Data := some (message v.name q) } _ rfl hlive hup
      exact absurd (hsame.symm.trans hafter) hbefore
  · intro a _ _ _ h ha
    dsimp only at h
    rw [later_false (handleDhcpv4EventData_slot.trans hmsg.symm) h] at ha
    cases ha
  · simp

/-- A lawful call that asks for a lease has got all the answers. -/
theorem cellular_safe (hmsg : v.pIpcIpv4Data = none) (hdown : v.ipv4Status = .down) (hmemory : memory)
    (h : Lawful (.cellular memory q) v) : q.Safe ∧ q.ipv6Address.Fits 256 := by
  obtain ⟨o, hrun, hlawful⟩ := h
  have hactive : v.pIpcIpv4Data.isNone ∧ v.ipv4Status = .down ∧ memory := ⟨by simp [hmsg], hdown, hmemory⟩
  simp only [Call.run, updateIpFromCellularMgr, if_pos hactive] at hrun
  cases hfill : fill (queries v.name q) { addressAssigned := true } with
  | none => simp [hfill] at hrun
  | some r =>
    obtain ⟨done, m⟩ := r
    cases done with
    | false =>
      simp only [hfill, Option.some.injEq] at hrun
      subst hrun
      have hkept := (hlawful.kept rfl).1
      rw [hmsg] at hkept
      cases hkept
    | true =>
      have hanswers := of_fill_eq_done hfill
      have hm : m = message v.name q := by
        rw [fill_eq_done hanswers] at hfill
        exact (Prod.mk.inj (Option.some.inj hfill)).2.symm
      subst hm
      simp only [hfill, queryIpv6_eq_some] at hrun
      obtain ⟨hipv6, rfl⟩ := hrun
      refine ⟨⟨(@forall_queries q (fun a => a ≠ .failed ∧ a.Fits 256) v.name).mp hanswers, ?_⟩, hipv6⟩
      intro hgranted hgateway
      rw [ne_eq, ← strncpy_eq_zero, ← (message_granted v.name hgranted).2.1] at hgateway
      have hassigned := (message_addressAssigned v.name).mpr hgranted
      obtain ⟨hup, hdata, hmtu⟩ := @handleDhcpv4EventData_up
        { v with pIpcIpv4Data := some (message v.name q) } _ rfl hgateway hassigned
      have hbefore : v.ipv4Status ≠ .up := by
        rw [hdown]
        decide
      exact (stored_message v.name hgranted hdata hmtu).mp (hlawful.atOnce hbefore hup).2

theorem cellular_lawful_iff : Lawful (.cellular memory q) v ↔ (Call.cellular memory q).Safe v := by
  by_cases hactive : v.pIpcIpv4Data.isNone ∧ v.ipv4Status = .down ∧ memory
  · have hmsg : v.pIpcIpv4Data = none := Option.isNone_iff_eq_none.mp hactive.1
    constructor
    · intro h
      obtain ⟨hsafe, hipv6⟩ := cellular_safe hmsg hactive.2.1 hactive.2.2 h
      exact ⟨fun _ _ _ => hsafe, hipv6⟩
    · rintro ⟨hsafe, hipv6⟩
      have hq := hsafe hmsg hactive.2.1 hactive.2.2
      refine cellular_lawful hmsg hq ?_ hipv6
      have hfill := @fill_eq_done (queries v.name q) { addressAssigned := true }
        ((@forall_queries q (fun a => a ≠ .failed ∧ a.Fits 256) v.name).mpr hq.1)
      simp only [updateIpFromCellularMgr, if_pos hactive, hfill]
      rfl
  · have hrun : (Call.cellular memory q).run v = queryIpv6 q v := by
      simp only [Call.run, updateIpFromCellularMgr, if_neg hactive]
    constructor
    · rintro ⟨o, ho, -⟩
      rw [hrun, queryIpv6_eq_some] at ho
      refine ⟨fun hmsg hdown hmemory => absurd ⟨?_, hdown, hmemory⟩ hactive, ho.1⟩
      rw [hmsg]
      rfl
    · rintro ⟨-, hipv6⟩
      refine ⟨_, hrun.trans (queryIpv6_eq_some.mpr ⟨hipv6, rfl⟩), ?_⟩
      exact noFalseLease_quiet rfl rfl (fun _ => rfl) (by simp)

end Cellular

/-! ## PPP -/

section Ppp

variable {q : PppAnswers} {v : QueriedVif} {memory : Bool}
  {name localIp remoteIp list text : String}

/-- A text that is an address is short, and not zero. -/
theorem of_isValidIpv4 (h : isValidIpv4 (some text)) :
    text ≠ "" ∧ text ≠ "0.0.0.0" ∧ text.length ≤ 15 := by
  simp only [isValidIpv4, Option.any_some, isValidIpAddress, isValidIpv4Address, inetPton, Bool.and_eq_true,
    bne_iff_ne, ne_eq, Option.isSome_iff_exists] at h
  obtain ⟨hne, ⟨ip, hread⟩, hzero⟩ := h
  refine ⟨hne, hzero, ?_⟩
  rw [← String.length_toList, quad_eq_some.mp hread]
  exact ip.length_text

theorem holds_buffer {size : Nat} {value : String} (hsize : 0 < size) :
    Holds size (buffer size value) value ↔ value.length < size := by
  refine ⟨And.right, fun h => ⟨?_, h⟩⟩
  have hlength : value.toList.length ≤ size - 1 := by
    rw [String.length_toList]
    omega
  rw [buffer, List.take_of_length_le hlength, String.ofList_toList]

/-- The message before the servers are known. -/
def pppAddresses (localIp remoteIp : String) : Dhcpv4Msg where
  addressAssigned := true
  dhcpState := "Up"
  ip := buffer 32 localIp
  gateway := buffer 32 remoteIp

def pppMessage (name localIp remoteIp list : String) : Dhcpv4Msg :=
  { (storeDnsServers list (pppAddresses localIp remoteIp)).1 with
    dhcpcInterface := name, mask := "255.255.255.255" }

/-- What of a list is tested for an address: the second entry, if there is a first one. -/
def testedServers (list : String) : List (Option String) :=
  match tokens list with
  | [] => []
  | _ :: rest => [rest.head?]

theorem storeDnsServers_eq (m : Dhcpv4Msg) : storeDnsServers list m =
    ({ m with
      dnsServer := if tokens list = [] then m.dnsServer else buffer 64 ((tokens list).headD "")
      dnsServer1 := if secondServer list = "" then m.dnsServer1 else buffer 64 (secondServer list) },
      testedServers list) := by
  unfold storeDnsServers testedServers secondServer
  cases tokens list with
  | nil => simp
  | cons token rest =>
    cases rest with
    | nil => simp [isValidIpv4]
    | cons second rest =>
      by_cases hvalid : isValidIpv4 (some second)
      · have hne := (of_isValidIpv4 hvalid).1
        simp [hvalid, hne, Option.filter]
      · simp [hvalid, Option.filter]

theorem none_mem_testedServers : none ∈ testedServers list ↔ (tokens list).length = 1 := by
  unfold testedServers
  cases tokens list with
  | nil => simp
  | cons token rest => cases rest <;> simp

theorem secondServer_length : (secondServer list).length < 64 := by
  unfold secondServer
  cases (tokens list)[1]? with
  | none => decide
  | some token =>
    by_cases hvalid : isValidIpv4 (some token)
    · have hlength := (of_isValidIpv4 hvalid).2.2
      simp only [Option.filter, hvalid]
      exact hlength.trans_lt (by decide)
    · simp [Option.filter, hvalid]

/-- The values that arrive from PPP are those of the answers when the first server has room. -/
theorem stored_pppMessage (hlocal : isValidIpv4 (some localIp)) (hremote : isValidIpv4 (some remoteIp))
    (hdata : v.ipv4Data.toIpv4Lease = (pppMessage name localIp remoteIp list).toIpv4Lease) :
    (Call.ipcp memory ⟨.text localIp, .text remoteIp, .text list⟩).Stored v ↔
      ∀ token ∈ (tokens list).head?, token.length < 64 := by
  have hip : Holds 32 (buffer 32 localIp) localIp := by
    have hlength := (of_isValidIpv4 hlocal).2.2
    exact (holds_buffer (by decide)).mpr (by omega)
  have hgateway : Holds 32 (buffer 32 remoteIp) remoteIp := by
    have hlength := (of_isValidIpv4 hremote).2.2
    exact (holds_buffer (by decide)).mpr (by omega)
  have hsecond : Holds 64 (if secondServer list = "" then "" else buffer 64 (secondServer list))
      (secondServer list) := by
    split
    · next hnone => exact ⟨hnone.symm, secondServer_length⟩
    · exact (holds_buffer (by decide)).mpr secondServer_length
  have hfirst : Holds 64 (if tokens list = [] then "" else buffer 64 ((tokens list).headD ""))
      ((tokens list).headD "") ↔ ∀ token ∈ (tokens list).head?, token.length < 64 := by
    cases tokens list with
    | nil => simp [Holds]
    | cons token rest => simp [holds_buffer]
  simp only [Call.Stored, Answer.value, hdata, pppMessage, storeDnsServers_eq, pppAddresses, hip, hgateway,
    hfirst, hsecond, true_and, and_true]

theorem pppMessage_up (hremote : isValidIpv4 (some remoteIp)) :
    (pppMessage name localIp remoteIp list).gateway ≠ "0.0.0.0" ∧
      (pppMessage name localIp remoteIp list).addressAssigned = true ∧
      (pppMessage name localIp remoteIp list).isExpired = false := by
  obtain ⟨-, hzero, hlength⟩ := of_isValidIpv4 hremote
  have hgateway : buffer 32 remoteIp = remoteIp := ((holds_buffer (by decide)).mpr (by omega)).1
  simp [pppMessage, storeDnsServers_eq, pppAddresses, hgateway, hzero]

/-- Both addresses are valid and the list of the servers has come. -/
theorem ipcpLease_text (hlength : list.length < 256)
    (hq : q.dnsServers = .text list) : ipcpLease true q localIp remoteIp v = some
      ⟨{ v.setIpcp .up with pIpcIpv4Data := some (pppMessage v.name localIp remoteIp list) }, false,
        [some localIp, some remoteIp] ++ testedServers list⟩ := by
  simp only [ipcpLease, hq, if_pos hlength, if_true, pppMessage, pppAddresses, storeDnsServers_eq]
  rfl

/-- The list of the servers has come. What the call leaves for the next tick has the values when the
first server has room, and NULL is tested when it is the only one. -/
theorem noFalseLease_pppMessage (hmsg : v.pIpcIpv4Data = none) (hlocal : isValidIpv4 (some localIp))
    (hremote : isValidIpv4 (some remoteIp)) {o : Outcome} (ho : o =
      ⟨{ v.setIpcp .up with pIpcIpv4Data := some (pppMessage v.name localIp remoteIp list) }, false,
        [some localIp, some remoteIp] ++ testedServers list⟩) :
    NoFalseLease (.ipcp memory ⟨.text localIp, .text remoteIp, .text list⟩) v o ↔
      (tokens list).length ≠ 1 ∧ ∀ token ∈ (tokens list).head?, token.length < 64 := by
  obtain ⟨hgateway, hassigned, hlive⟩ := @pppMessage_up v.name localIp remoteIp list hremote
  have hchecked : none ∉ o.checked ↔ (tokens list).length ≠ 1 := by
    rw [ho]
    simp [none_mem_testedServers]
  have hleft : o.vif.pIpcIpv4Data = some (pppMessage v.name localIp remoteIp list) := by rw [ho]
  have hstart : (v.pIpcIpv4Data.isNone && o.vif.pIpcIpv4Data.isSome) = true := by rw [hmsg, hleft]; rfl
  constructor
  · intro h
    refine ⟨hchecked.mp h.checked, ?_⟩
    -- the interface may be down before the next tick
    let w : QueriedVif := { o.vif with sm := o.vif.sm.mapIp fun ip => { ip with ipv4Status := .down } }
    have hreach : Relation.ReflTransGen Later
        ⟨o.vif, v.pIpcIpv4Data.isNone && o.vif.pIpcIpv4Data.isSome⟩ ⟨w, true⟩ := by
      rw [hstart]
      exact .single (.other ⟨o.vif, true⟩ w fun _ => rfl)
    obtain ⟨hup, hdata, -⟩ := @handleDhcpv4EventData_up { w with sm := ipcMsgHandle w.sm } _ hleft hgateway
      hassigned
    have hbefore : w.ipv4Status ≠ .up := by
      rw [show w.ipv4Status = .down from rfl]
      decide
    have htick := @ifaceIpcMsgHandle_message memory ⟨.failed, .failed, .failed⟩ w _ hleft
    have hstored := (h.later _ _ _ _ hreach rfl htick hbefore hup).2
    exact (stored_pppMessage hlocal hremote hdata).mp hstored
  · rintro ⟨hone, hfirst⟩
    constructor
    · intro hfailed
      rw [ho] at hfailed
      cases hfailed
    · intro hbefore hafter
      rw [ho] at hafter
      exact absurd hafter hbefore
    · intro a _ _ v' hreach ha htick hbefore hafter
      have hthere := (later_message hreach ha).2.trans hleft
      obtain ⟨-, -, hdata, -⟩ := tick_message hthere hlive htick hbefore hafter
      refine ⟨⟨(of_isValidIpv4 hlocal).1, (of_isValidIpv4 hremote).1, by simp⟩, ?_⟩
      exact (stored_pppMessage hlocal hremote hdata).mpr hfirst
    · exact hchecked.mpr hone

/-- The call once both addresses are known to be valid. -/
theorem ipcpLease_lawful_iff (hmsg : v.pIpcIpv4Data = none) (hlocal : isValidIpv4 (some localIp))
    (hremote : isValidIpv4 (some remoteIp)) {dns : Answer} :
    (∃ o, ipcpLease memory ⟨.text localIp, .text remoteIp, dns⟩ localIp remoteIp v = some o ∧
      NoFalseLease (.ipcp memory ⟨.text localIp, .text remoteIp, dns⟩) v o) ↔
      memory ∧ ListSafe dns := by
  cases memory with
  | false => simp [ipcpLease]
  | true =>
    cases dns with
    | failed =>
      constructor
      · rintro ⟨o, hrun, hlawful⟩
        simp only [ipcpLease, if_true, Option.some.injEq] at hrun
        subst hrun
        have hkept := (hlawful.kept rfl).1
        rw [hmsg] at hkept
        cases hkept
      · rintro ⟨-, hlist⟩
        exact absurd rfl hlist.1
    | text list =>
      by_cases hlength : list.length < 256
      · have hrun := @ipcpLease_text ⟨.text localIp, .text remoteIp, .text list⟩ v localIp remoteIp list
          hlength rfl
        have hiff := @noFalseLease_pppMessage v true localIp remoteIp list hmsg hlocal hremote _ rfl
        constructor
        · rintro ⟨o, ho, hlawful⟩
          rw [hrun] at ho
          obtain rfl := Option.some.inj ho
          obtain ⟨hone, hfirst⟩ := hiff.mp hlawful
          exact ⟨rfl, by simp, hlength, hone, hfirst⟩
        · rintro ⟨-, -, -, hone, hfirst⟩
          exact ⟨_, hrun, hiff.mpr ⟨hone, hfirst⟩⟩
      · constructor
        · rintro ⟨o, hrun, -⟩
          simp [ipcpLease, hlength] at hrun
        · rintro ⟨-, -, hfits, -⟩
          exact absurd hfits hlength

/-- A call that ends before the addresses are known to be valid. -/
theorem lawful_of_run {c : Call} {o : Outcome} (hrun : c.run v = some o)
    (hmsg : o.vif.pIpcIpv4Data = v.pIpcIpv4Data) (hstatus : o.vif.ipv4Status = v.ipv4Status)
    (hppp : o.failed → o.vif.ppp = v.ppp) (hchecked : none ∉ o.checked) : Lawful c v :=
  ⟨o, hrun, noFalseLease_quiet hmsg hstatus hppp hchecked⟩

theorem not_lawful_of_run {c : Call} (hrun : c.run v = none) : ¬ Lawful c v := by
  rintro ⟨o, ho, -⟩
  rw [hrun] at ho
  cases ho

theorem failed_fits : Answer.failed.Fits 128 := by decide

theorem not_isValidIpv4_failed : ¬ isValidIpv4 (some Answer.failed.value) := by decide

/-- Both addresses have come. -/
theorem ipcp_lawful_iff_of_texts {dns : Answer} (hmsg : v.pIpcIpv4Data = none) (hlocal : localIp.length < 128)
    (hremote : remoteIp.length < 128) :
    Lawful (.ipcp memory ⟨.text localIp, .text remoteIp, dns⟩) v ↔
      (isValidIpv4 (some localIp) → isValidIpv4 (some remoteIp) → memory ∧ ListSafe dns) := by
  have hrun : (Call.ipcp memory ⟨.text localIp, .text remoteIp, dns⟩).run v =
      if !isValidIpv4 (some localIp) then some { vif := v.setIpcp .down, checked := [some localIp] }
      else if !isValidIpv4 (some remoteIp) then
        some { vif := v.setIpcp .down, checked := [some localIp, some remoteIp] }
      else ipcpLease memory ⟨.text localIp, .text remoteIp, dns⟩ localIp remoteIp v := by
    simp only [Call.run, ipcpStateChangeHandler, hmsg, Option.isSome_none, Bool.false_eq_true, if_false,
      if_pos hlocal, if_pos hremote]
  cases hl : isValidIpv4 (some localIp) with
  | false =>
    rw [hl] at hrun
    refine iff_of_true (lawful_of_run hrun rfl rfl ?_ (by simp)) (by simp)
    exact fun hfailed => by cases hfailed
  | true =>
    cases hr : isValidIpv4 (some remoteIp) with
    | false =>
      rw [hl, hr] at hrun
      refine iff_of_true (lawful_of_run hrun rfl rfl ?_ (by simp)) (by simp)
      exact fun hfailed => by cases hfailed
    | true =>
      rw [hl, hr] at hrun
      have hlease := @ipcpLease_lawful_iff v memory localIp remoteIp hmsg hl hr dns
      rw [Lawful, hrun]
      exact hlease.trans ⟨fun h _ _ => h, fun h => h rfl rfl⟩

theorem ipcp_lawful_iff : Lawful (.ipcp memory q) v ↔ (Call.ipcp memory q).Safe v := by
  obtain ⟨localAnswer, remoteAnswer, dns⟩ := q
  cases hmsg : v.pIpcIpv4Data with
  | some m =>
    have hrun : (Call.ipcp memory ⟨localAnswer, remoteAnswer, dns⟩).run v = some { vif := v } := by
      simp [Call.run, ipcpStateChangeHandler, hmsg]
    refine iff_of_true (lawful_of_run hrun rfl rfl (fun _ => rfl) (by simp)) fun hnone => ?_
    rw [hmsg] at hnone
    cases hnone
  | none =>
    have hsafe : (Call.ipcp memory ⟨localAnswer, remoteAnswer, dns⟩).Safe v ↔
        (⟨localAnswer, remoteAnswer, dns⟩ : PppAnswers).Safe memory := by
      simp [Call.Safe, hmsg]
    rw [hsafe, PppAnswers.Safe]
    cases localAnswer with
    | failed =>
      have hrun : (Call.ipcp memory ⟨.failed, remoteAnswer, dns⟩).run v =
          some { vif := v, failed := true } := by
        simp [Call.run, ipcpStateChangeHandler, hmsg]
      refine iff_of_true (lawful_of_run hrun rfl rfl (fun _ => rfl) (by simp)) ⟨failed_fits, ?_, ?_⟩
      · exact fun hne => absurd rfl hne
      · exact fun hlocal => absurd hlocal not_isValidIpv4_failed
    | text localIp =>
      by_cases hlocal : localIp.length < 128
      · cases remoteAnswer with
        | failed =>
          have hrun : (Call.ipcp memory ⟨.text localIp, .failed, dns⟩).run v =
              some { vif := v, failed := true } := by
            simp [Call.run, ipcpStateChangeHandler, hmsg, hlocal]
          refine iff_of_true (lawful_of_run hrun rfl rfl (fun _ => rfl) (by simp))
            ⟨hlocal, fun _ => failed_fits, ?_⟩
          exact fun _ hvalid => absurd hvalid not_isValidIpv4_failed
        | text remoteIp =>
          by_cases hremote : remoteIp.length < 128
          · rw [ipcp_lawful_iff_of_texts hmsg hlocal hremote]
            exact ⟨fun h => ⟨hlocal, fun _ => hremote, h⟩, fun h => h.2.2⟩
          · have hrun : (Call.ipcp memory ⟨.text localIp, .text remoteIp, dns⟩).run v = none := by
              simp [Call.run, ipcpStateChangeHandler, hmsg, hlocal, hremote]
            exact iff_of_false (not_lawful_of_run hrun) fun h => hremote (h.2.1 (by simp))
      · have hrun : (Call.ipcp memory ⟨.text localIp, remoteAnswer, dns⟩).run v = none := by
          simp [Call.run, ipcpStateChangeHandler, hmsg, hlocal]
        exact iff_of_false (not_lawful_of_run hrun) fun h => hlocal h.1

end Ppp

/-! ## Every call -/

/-- A call never makes a lease of a query that failed exactly when its answers are safe. -/
theorem lawful_iff (c : Call) (v : QueriedVif) : Lawful c v ↔ c.Safe v := by
  cases c with
  | cellular memory q => exact cellular_lawful_iff
  | ipcp memory q => exact ipcp_lawful_iff

namespace Example

/-- The answers of a modem whose last query fails. -/
def noMtu : CellularAnswers where
  ipAddress := .text "10.0.0.2"
  gateway := .text "10.0.0.1"
  primaryDns := .text "8.8.8.8"
  secondaryDns := .text ""
  subnetMask := .text "255.255.255.0"
  mtuSize := .failed
  ipv6Address := .text ""

def unqueried : QueriedVif := { sm := {} }

/-- What is left in the room of a message. -/
def leftOver : Dhcpv4Msg where
  addressAssigned := true
  ip := "10.0.0.2"
  gateway := "10.0.0.1"
  dnsServer := "8.8.8.8"
  mask := "255.255.255.0"

end Example

open Example in
/-- The query for the MTU fails, and the next tick takes what is left of the call for a lease. -/
theorem failed_query_leased : ¬ Lawful (.cellular true noMtu) unqueried := by
  rintro ⟨o, hrun, hlawful⟩
  have ho : o = { vif := { unqueried with pIpcIpv4Data := some leftOver }, failed := true } :=
    (Option.some.inj hrun).symm
  subst ho
  have htick := @ifaceIpcMsgHandle_message true ⟨.failed, .failed, .failed⟩
    { unqueried with pIpcIpv4Data := some leftOver } leftOver rfl
  have hgranted := (hlawful.later ⟨_, true⟩ _ _ _ .refl rfl htick (by decide) rfl).1
  exact absurd rfl (hgranted .failed (by simp [CellularAnswers.mandatory, noMtu]))

end WanManager.QueriedLeases
