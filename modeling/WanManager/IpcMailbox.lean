import WanManager.Concurrency.Mailbox
import WanManager.DhcpClientEvents

/-! # Messages of the DHCP clients

`wanmgr_ipc.c` and `dhcpv6c_msg_apis.c` leave a message of a DHCP client with the virtual interface
it names, where `WanMgr_IfaceIpcMsg_handle` takes it up at the start of a tick. There is room for
one message of each family. A receiver that finds the room taken tries again a few times or not
at all. Each try and each tick hold the lock of the data base. -/

namespace WanManager
open Concurrency InterfaceSm DhcpEvents

deriving instance DecidableEq for Dhcpv4Msg
deriving instance DecidableEq for Dhcpv6Msg

namespace Ipc

/-! ## The code -/

/-- `ipc_dhcpv4_data_t` and `ipc_dhcpv6_data_t`, with the interface that they name. -/
inductive IpcMsg where
  | dhcpv4 (dhcpcInterface : String) (m : Dhcpv4Msg)
  | dhcpv6 (ifname : String) (m : Dhcpv6Msg)
  deriving DecidableEq

def IpcMsg.ifName : IpcMsg → String
  | .dhcpv4 name _ => name
  | .dhcpv6 name _ => name

def IpcMsg.version : IpcMsg → DhcpVersion
  | .dhcpv4 _ _ => .dhcpv4
  | .dhcpv6 _ _ => .dhcpv6

/-- The interface and the family that a message is for. -/
abbrev Key := String × DhcpVersion

def IpcMsg.key (m : IpcMsg) : Key := (m.ifName, m.version)

/-- A virtual interface with the messages that it has not taken up. -/
structure IpcVif extends NamedVif where
  pIpcIpv4Data : Option Dhcpv4Msg := none
  pIpcIpv6Data : Option Dhcpv6Msg := none
  deriving DecidableEq

namespace IpcVif

def pending (v : IpcVif) : DhcpVersion → Option IpcMsg
  | .dhcpv4 => v.pIpcIpv4Data.map (.dhcpv4 v.name)
  | .dhcpv6 => v.pIpcIpv6Data.map (.dhcpv6 v.name)

def put (v : IpcVif) : IpcMsg → IpcVif
  | .dhcpv4 _ m => { v with pIpcIpv4Data := some m }
  | .dhcpv6 _ m => { v with pIpcIpv6Data := some m }

/-- `WanMgr_IfaceIpcMsg_handle`, less what it does for PPP. -/
def ifaceIpcMsgHandle (v : IpcVif) : IpcVif :=
  let v :=
    match v.pIpcIpv4Data with
    | some m => { v with sm := handleDhcpv4EventData m v.sm, pIpcIpv4Data := none }
    | none => v
  match v.pIpcIpv6Data with
  | some m => { v with sm := handleDhcpv6EventData m v.sm, pIpcIpv6Data := none }
  | none => v

/-- A tick of the state machine; the messages are taken up in the loop only. -/
def tick (v : IpcVif) : IpcVif :=
  match v.sm.phase with
  | .running _ => { v.ifaceIpcMsgHandle with sm := (vismTick.run v.ifaceIpcMsgHandle.sm).2 }
  | _ => { v with sm := (vismTick.run v.sm).2 }

/-- What a tick takes up. -/
def takes (v : IpcVif) (f : DhcpVersion) : Option IpcMsg :=
  match v.sm.phase with
  | .running _ => v.pending f
  | _ => none

end IpcVif

/-- `IpcServerThread`, and the thread of `WanMgr_DhcpV6MsgHandler`. -/
inductive Receiver where
  | ipcServer | dhcpV6MsgHandler
  deriving DecidableEq

/-- `WANMGR_MAX_IPC_PROCCESS_TRY`; what comes through the FIFO is tried once. -/
def Receiver.maxTry : Receiver → Nat
  | .ipcServer => 5
  | .dhcpV6MsgHandler => 1

def Receiver.accepts : Receiver → IpcMsg → Prop
  | .ipcServer, _ => True
  | .dhcpV6MsgHandler, m => m.version = .dhcpv6

/-- A message in the hands of a receiver, after `try` tries. -/
structure Held where
  msg : IpcMsg
  tries : Nat := 0

/-- The virtual interfaces, and what the receivers are busy with. -/
structure Delivery where
  vifs : List IpcVif
  held : Receiver → Option Held := fun _ => none

/-- The virtual interface that a message is left with. -/
def findVif (m : IpcMsg) (vs : List IpcVif) : Option Nat :=
  vifByNameVismRunning m.ifName (vs.map IpcVif.toNamedVif)

/-- One turn of the loop of `WanMgr_IpcNewIpv4Msg` and `WanMgr_IpcNewIpv6Msg`, and the end of
`WanMgr_DhcpV6MsgHandler`; `memory` is whether there is some. -/
def storeMsg (memory : Bool) (m : IpcMsg) (vs : List IpcVif) : Option (List IpcVif) :=
  match findVif m vs with
  | none => none
  | some k =>
    if (vs[k]?.bind (·.pending m.version)).isNone ∧ memory then some (vs.modify k (·.put m))
    else none

/-- What a receiver keeps after a try that failed; it gives up after its last one. -/
def Held.again (h : Held) (r : Receiver) : Option Held :=
  if h.tries + 1 < r.maxTry then some { h with tries := h.tries + 1 } else none

def Delivery.attempt (s : Delivery) (r : Receiver) (memory : Bool) (h : Held) : Delivery :=
  match storeMsg memory h.msg s.vifs with
  | some vs => { vifs := vs, held := Function.update s.held r none }
  | none => { s with held := Function.update s.held r (h.again r) }

/-! ## Runs -/

/-- What happens: a receiver gets a message or tries to leave it, a virtual interface ticks, or
the surroundings of its state machine change. -/
inductive Event where
  | receive (r : Receiver) (m : IpcMsg)
  | attempt (r : Receiver) (memory : Bool)
  | tick (v : IpcVif)
  | surround

inductive Step : Event → Delivery → Delivery → Prop
  | receive (s r m) : s.held r = none → r.accepts m →
      Step (.receive r m) s { s with held := Function.update s.held r (some { msg := m }) }
  | attempt (s r memory h) : s.held r = some h → Step (.attempt r memory) s (s.attempt r memory h)
  | tick (s k v) : s.vifs[k]? = some v →
      Step (.tick v) s { s with vifs := s.vifs.modify k IpcVif.tick }
  | surround (s k v u) : s.vifs[k]? = some v → leaseView u = leaseView v.sm →
      Step .surround s { s with vifs := s.vifs.modify k fun v => { v with sm := u } }

def delivery : Labelled Event Delivery where
  step := Step

/-- The messages that came for a virtual interface, and those that it took up, the last one
first. -/
def Event.received (key : Key) : Event → Option IpcMsg
  | .receive _ m => if m.key = key then some m else none
  | _ => none

def Event.taken (key : Key) : Event → Option IpcMsg
  | .tick v => if v.name = key.1 then v.takes key.2 else none
  | _ => none

/-- The messages for a virtual interface that are with it, by its place in the table, and those
that a receiver is busy with. -/
def pendingAt (key : Key) (vs : List IpcVif) (k : Nat) : Option IpcMsg :=
  vs[k]?.bind fun v => if v.name = key.1 then v.pending key.2 else none

def heldAt (key : Key) (held : Receiver → Option Held) (r : Receiver) : Option IpcMsg :=
  (held r).bind fun h => if h.msg.key = key then some h.msg else none

/-! ## Delivery -/

/-- What the handler of its family makes of a message. -/
def IpcMsg.handle (s : Vism) : IpcMsg → Vism
  | .dhcpv4 _ m => handleDhcpv4EventData m s
  | .dhcpv6 _ m => handleDhcpv6EventData m s

/-- The lease of one family that is stored, with its status. -/
def storedLease (f : DhcpVersion) (s : Vism) : LeaseStatus × (Ipv4Data ⊕ Ipv6Data) :=
  match f with
  | .dhcpv4 => (s.virtIf.ip.ipv4Status, .inl s.virtIf.ip.ipv4Data)
  | .dhcpv6 => (s.virtIf.ip.ipv6Status, .inr s.virtIf.ip.ipv6Data)

/-- The lease is what the handler made of the message, or what the state machine has made of that since,
by ticks of its own. -/
inductive Reflects (f : DhcpVersion) (m : IpcMsg) : Vism → Prop
  | handled {s u} : storedLease f u = storedLease f (m.handle s) → Reflects f m u
  | tick {s u} : Reflects f m s → storedLease f u = storedLease f (vismTick.run s).2 → Reflects f m u

/-- A virtual interface of the name has a lease that reflects the message. -/
def HasStored (key : Key) (m : IpcMsg) (vs : List IpcVif) : Prop :=
  ∃ (k : Nat) (v : IpcVif), vs[k]? = some v ∧ v.name = key.1 ∧ Reflects key.2 m v.sm

/-- A message comes when no receiver is busy with another one for the same virtual interface and
family; the last try for it finds a running state machine, the room empty and memory; and the room
is not found empty while another virtual interface of that name has a message. -/
def Timely : Event → Delivery → Prop
  | .receive _ m, s => ∀ r, heldAt m.key s.held r = none
  | .attempt r memory, s => ∀ h ∈ s.held r,
      (h.tries + 1 < r.maxTry ∨
        memory ∧ (findVif h.msg s.vifs).isSome ∧ ∀ k, pendingAt h.msg.key s.vifs k = none) ∧
      ∀ k ∈ findVif h.msg s.vifs, pendingAt h.msg.key s.vifs k = none →
        ∀ j, pendingAt h.msg.key s.vifs j = none
  | .tick _, _ => True
  | .surround, _ => True

theorem findVif_spec {m : IpcMsg} {vs : List IpcVif} {k : Nat} (h : findVif m vs = some k) :
    ∃ v, vs[k]? = some v ∧ v.name = m.ifName := by
  unfold findVif vifByNameVismRunning at h
  split at h
  · contradiction
  · rw [List.findIdx?_eq_some_iff_getElem] at h
    obtain ⟨hlt, hfound, -⟩ := h
    rw [List.length_map] at hlt
    rw [List.getElem_map, Bool.and_eq_true, beq_iff_eq] at hfound
    exact ⟨vs[k], List.getElem?_eq_getElem hlt, hfound.1⟩

/-! ## The code as a mailbox -/

theorem pending_put {v : IpcVif} {m : IpcMsg} {f : DhcpVersion} (hname : v.name = m.ifName) :
    (v.put m).pending f = if f = m.version then some m else v.pending f := by
  cases m <;> cases f <;> simp_all [IpcVif.put, IpcVif.pending, IpcMsg.version, IpcMsg.ifName]

/-- Both messages are taken up, whatever they say. -/
theorem ifaceIpcMsgHandle_empties (v : IpcVif) : v.ifaceIpcMsgHandle.name = v.name ∧
    v.ifaceIpcMsgHandle.pIpcIpv4Data = none ∧ v.ifaceIpcMsgHandle.pIpcIpv6Data = none := by
  obtain ⟨n, m4, m6⟩ := v
  cases m4 <;> cases m6 <;> exact ⟨rfl, rfl, rfl⟩

/-- A tick leaves nothing behind that it takes up, and what it does not take up. -/
theorem tick_spec (v : IpcVif) (f : DhcpVersion) : v.tick.name = v.name ∧
    v.tick.pending f = (if (v.takes f).isSome then none else v.pending f) ∧
      ∀ m, v.takes f = some m → v.pending f = some m := by
  obtain ⟨hname, h4, h6⟩ := ifaceIpcMsgHandle_empties v
  unfold IpcVif.tick IpcVif.takes
  split
  · refine ⟨hname, ?_, fun _ h => h⟩
    cases f with
    | dhcpv4 => cases h : v.pIpcIpv4Data <;> simp [IpcVif.pending, h4, h]
    | dhcpv6 => cases h : v.pIpcIpv6Data <;> simp [IpcVif.pending, h6, h]
  · exact ⟨rfl, rfl, by simp⟩

/-- A message is left where there is room for it. -/
theorem storeMsg_spec {memory : Bool} {m : IpcMsg} {vs vs' : List IpcVif}
    (h : storeMsg memory m vs = some vs') :
    ∃ k v, findVif m vs = some k ∧ vs[k]? = some v ∧ v.name = m.ifName ∧
      v.pending m.version = none ∧ vs' = vs.modify k fun v => v.put m := by
  unfold storeMsg at h
  split at h
  · contradiction
  · next k hk =>
    obtain ⟨v, hv, hname⟩ := findVif_spec hk
    rw [hv] at h
    split at h
    · next hroom =>
      obtain rfl := Option.some.inj h
      exact ⟨k, v, hk, hv, hname, by simpa using hroom.1, rfl⟩
    · contradiction

/-- The only message that is with the virtual interface, and the only one with a receiver. -/
structure Views (key : Key) (s : Delivery) (b : Mailbox IpcMsg) : Prop where
  held : Mailbox.Sole (heldAt key s.held) b.held
  slot : Mailbox.Sole (pendingAt key s.vifs) b.slot

theorem pendingAt_modify {key : Key} {vs : List IpcVif} {k : Nat} {v : IpcVif} {f : IpcVif → IpcVif}
    (hk : vs[k]? = some v) : pendingAt key (vs.modify k f) =
      Function.update (pendingAt key vs) k
        (if (f v).name = key.1 then (f v).pending key.2 else none) := by
  funext j
  by_cases hj : j = k
  · subst hj
    simp [pendingAt, hk]
  · simp [pendingAt, hj, Ne.symm hj]

/-- A virtual interface that keeps its messages, in the view of one of them. -/
theorem pendingAt_modify_same {key : Key} {vs : List IpcVif} {k : Nat} {v : IpcVif}
    {f : IpcVif → IpcVif} (hk : vs[k]? = some v) (hname : (f v).name = v.name)
    (hpending : v.name = key.1 → (f v).pending key.2 = v.pending key.2) :
    pendingAt key (vs.modify k f) = pendingAt key vs := by
  rw [pendingAt_modify hk, Function.update_eq_self_iff, hname]
  by_cases h : v.name = key.1 <;> simp [pendingAt, hk, h, hpending]

theorem heldAt_update {key : Key} {held : Receiver → Option Held} {r : Receiver} {o : Option Held} :
    heldAt key (Function.update held r o) =
      Function.update (heldAt key held) r
        (o.bind fun h => if h.msg.key = key then some h.msg else none) := by
  funext q
  by_cases hq : q = r
  · subst hq
    simp [heldAt]
  · simp [heldAt, hq]

theorem heldAt_update_same {key : Key} {held : Receiver → Option Held} {r : Receiver}
    {o : Option Held}
    (h : (o.bind fun h => if h.msg.key = key then some h.msg else none) = heldAt key held r) :
    heldAt key (Function.update held r o) = heldAt key held := by
  rw [heldAt_update, Function.update_eq_self_iff, h]

theorem heldAt_of_held {key : Key} {held : Receiver → Option Held} {r : Receiver} {h : Held}
    (hr : held r = some h) : heldAt key held r = if h.msg.key = key then some h.msg else none := by
  simp [heldAt, hr]

/-- A receiver that leaves its message with the virtual interface. -/
theorem Views.stored {key : Key} {s : Delivery} {b : Mailbox IpcMsg} {r : Receiver} {h : Held}
    {memory : Bool} {vs : List IpcVif} (hb : Views key s b) (hr : s.held r = some h)
    (hvs : storeMsg memory h.msg s.vifs = some vs)
    (halone : ∀ k ∈ findVif h.msg s.vifs, pendingAt h.msg.key s.vifs k = none →
      ∀ j, pendingAt h.msg.key s.vifs j = none) :
    ∃ b', Mailbox.Step b none none b' ∧ Views key ⟨vs, Function.update s.held r none⟩ b' := by
  obtain ⟨k, v, hk, hv, hname, hnone, rfl⟩ := storeMsg_spec hvs
  have hput : (v.put h.msg).name = v.name := by cases h.msg <;> rfl
  by_cases hkey : h.msg.key = key
  · subst hkey
    have hheld : heldAt h.msg.key s.held r = some h.msg := by rw [heldAt_of_held hr, if_pos rfl]
    have hroom : pendingAt h.msg.key s.vifs k = none := by
      simp [pendingAt, hv, IpcMsg.key, hname, hnone]
    obtain ⟨hsome, hremoved⟩ := hb.held.remove hheld
    have hslot := hb.slot.eq_none (halone k hk hroom)
    have hsole := hb.slot
    rw [hslot] at hsole
    obtain ⟨held, slot⟩ := b
    obtain rfl : held = some h.msg := hsome
    obtain rfl : slot = none := hslot
    refine ⟨⟨none, some h.msg⟩, .put h.msg, ⟨?_, ?_⟩⟩
    · rw [heldAt_update]
      exact hremoved
    · have hkey : v.name = h.msg.key.1 := hname
      have hversion : h.msg.key.2 = h.msg.version := rfl
      rw [pendingAt_modify hv, hput, if_pos hkey, pending_put hname, if_pos hversion]
      exact hsole.insert h.msg
  · refine ⟨b, .rest b, ⟨?_, ?_⟩⟩
    · rw [heldAt_update_same (by rw [heldAt_of_held hr, if_neg hkey]; rfl)]
      exact hb.held
    · rw [pendingAt_modify_same hv hput]
      · exact hb.slot
      · intro hown
        rw [pending_put hname, if_neg fun hversion => hkey ?_]
        rw [IpcMsg.key, ← hname, hown, ← hversion]

/-- A receiver whose try failed, and who keeps its message. -/
theorem Views.kept {key : Key} {s : Delivery} {b : Mailbox IpcMsg} {r : Receiver} {h : Held}
    (hb : Views key s b) (hr : s.held r = some h) (hmore : h.tries + 1 < r.maxTry) :
    Views key ⟨s.vifs, Function.update s.held r (h.again r)⟩ b := by
  refine ⟨?_, hb.slot⟩
  have hsame : heldAt key (Function.update s.held r (h.again r)) = heldAt key s.held := by
    apply heldAt_update_same
    rw [heldAt_of_held hr, Held.again, if_pos hmore]
    rfl
  rw [hsame]
  exact hb.held

theorem Views.ticked {key : Key} {s : Delivery} {b : Mailbox IpcMsg} {k : Nat} {v : IpcVif}
    (hb : Views key s b) (hv : s.vifs[k]? = some v) :
    ∃ b', Mailbox.Step b none ((Event.tick v).taken key) b' ∧
      Views key ⟨s.vifs.modify k IpcVif.tick, s.held⟩ b' := by
  obtain ⟨hname, hpending, htaken⟩ := tick_spec v key.2
  by_cases hown : v.name = key.1
  · cases hm : v.takes key.2 with
    | none =>
      refine ⟨b, ?_, hb.held, ?_⟩
      · rw [Event.taken, if_pos hown, hm]
        exact .rest b
      · rw [pendingAt_modify_same hv hname]
        · exact hb.slot
        · intro
          rw [hpending, hm]
          rfl
    | some m =>
      have hat : pendingAt key s.vifs k = some m := by simp [pendingAt, hv, hown, htaken m hm]
      obtain ⟨hslot, hremoved⟩ := hb.slot.remove hat
      have hheld := hb.held
      obtain ⟨held, slot⟩ := b
      obtain rfl : slot = some m := hslot
      refine ⟨⟨held, none⟩, ?_, hheld, ?_⟩
      · rw [Event.taken, if_pos hown, hm]
        exact .take held m
      · rw [pendingAt_modify hv, hname, if_pos hown, hpending, hm, Option.isSome_some, if_pos rfl]
        exact hremoved
  · refine ⟨b, ?_, hb.held, ?_⟩
    · rw [Event.taken, if_neg hown]
      exact .rest b
    · rw [pendingAt_modify_same hv hname fun h => absurd h hown]
      exact hb.slot

section Lease

variable {f : DhcpVersion} {m : IpcMsg} {s u : Vism} {v : IpcVif}

theorem Reflects.congr (h : Reflects f m s) (hlease : storedLease f u = storedLease f s) :
    Reflects f m u := by
  cases h with
  | handled hs => exact .handled (hlease.trans hs)
  | tick hs htick => exact .tick hs (hlease.trans htick)

theorem storedLease_of_leaseView (h : leaseView u = leaseView s) (f : DhcpVersion) :
    storedLease f u = storedLease f s := by
  cases f with
  | dhcpv4 => exact congrArg (fun l : LeaseView => (l.ipv4Status, Sum.inl l.ipv4Data)) h
  | dhcpv6 => exact congrArg (fun l : LeaseView => (l.ipv6Status, Sum.inr l.ipv6Data)) h

/-- A message of DHCPv4 is nothing to the lease of DHCPv6. -/
theorem storedLease_dhcpv6_handle (m : Dhcpv4Msg) (s : Vism) :
    storedLease .dhcpv6 (handleDhcpv4EventData m s) = storedLease .dhcpv6 s := by
  unfold handleDhcpv4EventData
  split_ifs <;> rfl

theorem storedLease_dhcpv4_handle (m : Dhcpv6Msg) (s : Vism) :
    storedLease .dhcpv4 (handleDhcpv6EventData m s) = storedLease .dhcpv4 s := by
  have hremoved : storedLease .dhcpv4 (removePrefix m s) = storedLease .dhcpv4 s := by
    unfold removePrefix
    split <;> rfl
  unfold handleDhcpv6EventData
  split
  · rfl
  rw [storedLease_of_leaseView (leaseView_takeMaptOffer _ _ _)]
  split
  · exact hremoved
  · exact hremoved

theorem ifaceIpcMsgHandle_nothing (h : v.pending f = none) :
    storedLease f v.ifaceIpcMsgHandle.sm = storedLease f v.sm := by
  obtain ⟨n, m4, m6⟩ := v
  cases f with
  | dhcpv4 =>
    obtain rfl := Option.map_eq_none_iff.mp h
    cases m6 with
    | none => rfl
    | some m6 => exact storedLease_dhcpv4_handle m6 _
  | dhcpv6 =>
    obtain rfl := Option.map_eq_none_iff.mp h
    cases m4 with
    | none => rfl
    | some m4 => exact storedLease_dhcpv6_handle m4 _

/-- A tick that takes up nothing of the family. -/
theorem Reflects.ticked (h : Reflects f m v.sm) (hnothing : v.takes f = none) : Reflects f m v.tick.sm := by
  unfold IpcVif.takes at hnothing
  unfold IpcVif.tick
  split at hnothing
  · exact .tick (h.congr (ifaceIpcMsgHandle_nothing hnothing)) rfl
  · exact .tick h rfl

theorem HasStored.modify {key : Key} {vs : List IpcVif} {k : Nat} {g : IpcVif → IpcVif}
    (h : HasStored key m vs) (hk : vs[k]? = some v) (hname : (g v).name = v.name)
    (hlease : v.name = key.1 → Reflects key.2 m v.sm → Reflects key.2 m (g v).sm) :
    HasStored key m (vs.modify k g) := by
  obtain ⟨j, w, hj, hown, hreflects⟩ := h
  by_cases hjk : j = k
  · subst hjk
    obtain rfl := Option.some.inj (hj.symm.trans hk)
    exact ⟨j, g w, by simp [hj], hname.trans hown, hlease hown hreflects⟩
  · exact ⟨j, w, by simp [hj, Ne.symm hjk], hown, hreflects⟩

theorem HasStored.attempt {key : Key} {d : Delivery} {r : Receiver} {memory : Bool} {h : Held}
    (hstored : HasStored key m d.vifs) : HasStored key m (d.attempt r memory h).vifs := by
  unfold Delivery.attempt
  split
  · next vs hvs =>
    obtain ⟨k, v, -, hv, -, -, rfl⟩ := storeMsg_spec hvs
    have hput : (v.put h.msg).name = v.name ∧ (v.put h.msg).sm = v.sm := by
      cases h.msg <;> exact ⟨rfl, rfl⟩
    exact hstored.modify hv hput.1 fun _ hreflects => hput.2 ▸ hreflects
  · exact hstored

end Lease

/-! ## Runs -/

namespace Example

/-- `erouter0`, whose state machine waits for its addresses. -/
def vif : IpcVif where
  name := "erouter0"
  sm := { phase := .running .obtainingIpAddresses, virtIf := { interfaceSmRunning := true } }

def lease (ip : String) : IpcMsg :=
  .dhcpv4 "erouter0" { ip, mask := "255.255.255.0", gateway := "192.0.2.1" }

def start : Delivery where
  vifs := [vif]

/-- The server receives a message, and tries to leave it. -/
def receives (m : IpcMsg) : delivery.Move where
  event := .receive .ipcServer m
  edit s := { s with held := Function.update s.held .ipcServer (some { msg := m }) }
  ready s := (s.held .ipcServer).isNone
  allowed s h := .receive s _ m (Option.isNone_iff_eq_none.mp h) trivial

def tries : delivery.Move where
  event := .attempt .ipcServer true
  edit s := ((s.held .ipcServer).map (s.attempt .ipcServer true)).getD s
  ready s := (s.held .ipcServer).isSome
  allowed s hs := by
    obtain ⟨h, hr⟩ := Option.isSome_iff_exists.mp hs
    rw [hr]
    exact .attempt s _ true h hr

def ticks (v : IpcVif) : delivery.Move where
  event := .tick v
  edit s := { s with vifs := s.vifs.modify 0 IpcVif.tick }
  ready s := decide (s.vifs[0]? = some v)
  allowed s h := .tick s 0 v (of_decide_eq_true h)

/-- No virtual interface has a message with this key. -/
def vacant (key : Key) (vs : List IpcVif) : Bool :=
  (List.range vs.length).all fun k => decide (pendingAt key vs k = none)

theorem pendingAt_of_vacant {key : Key} {vs : List IpcVif} (h : vacant key vs = true) (k : Nat) :
    pendingAt key vs k = none := by
  by_cases hk : k < vs.length
  · exact of_decide_eq_true (List.all_eq_true.mp h k (List.mem_range.mpr hk))
  · simp [pendingAt, List.getElem?_eq_none (Nat.le_of_not_lt hk)]

def receiversFree (s : Delivery) : Bool := (s.held .ipcServer).isNone && (s.held .dhcpV6MsgHandler).isNone

theorem timely_of_free {s : Delivery} (m : IpcMsg) (h : receiversFree s = true) :
    Timely (.receive .ipcServer m) s := by
  obtain ⟨hserver, hhandler⟩ := Bool.and_eq_true_iff.mp h
  intro r
  cases r with
  | ipcServer => rw [heldAt, Option.isNone_iff_eq_none.mp hserver, Option.bind_none]
  | dhcpV6MsgHandler => rw [heldAt, Option.isNone_iff_eq_none.mp hhandler, Option.bind_none]

/-- The server is not at its last try, and finds no message. -/
def tryVacant (s : Delivery) : Bool :=
  (s.held .ipcServer).all fun h => decide (h.tries + 1 < 5) && vacant h.msg.key s.vifs

theorem timely_of_vacant {s : Delivery} (h : tryVacant s = true) : Timely (.attempt .ipcServer true) s := by
  intro held hheld
  rw [tryVacant, Option.mem_def.mp hheld, Option.all_some, Bool.and_eq_true, decide_eq_true_eq] at h
  exact ⟨.inl h.1, fun _ _ _ => pendingAt_of_vacant h.2⟩

/-- A message that comes to an interface without one, and is taken up. -/
def delivers (m : IpcMsg) (v : IpcVif) : List (delivery.restrict Timely).Move :=
  [(receives m).guarded receiversFree fun _ => timely_of_free m,
    tries.guarded tryVacant fun _ => timely_of_vacant,
    (ticks (v.put m)).guarded (fun _ => true) fun _ _ => trivial]

/-- Two messages, one after the other. -/
def inTurn : List (delivery.restrict Timely).Move :=
  delivers (lease "192.0.2.10") vif ++
    delivers (lease "192.0.2.11") (vif.put (lease "192.0.2.10")).tick

end Example

end Ipc

end WanManager
