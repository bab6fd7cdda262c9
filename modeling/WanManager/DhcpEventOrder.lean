import Mathlib.Data.List.Induction
import WanManager.DhcpClientEvents

/-! # The order of the events

The threads of the events take the mutex in any order. A lease ends up as if they had come
in the order of the events when no two of them clash. In order, a lease that is up is one
that was received when a renewal only comes for a lease, and a lease is of its length. -/

namespace WanManager
open Concurrency InterfaceSm

namespace DhcpEvents

/-! ## The table -/

/-- By what the thread of an event finds its virtual interface. -/
def vifKeys (vs : Vifs) : List (String × Bool) :=
  vs.map fun v => (v.name, v.sm.virtIf.interfaceSmRunning)

theorem vifByNameVismRunning_congr {vs us : Vifs} (h : vifKeys us = vifKeys vs) (name : String) :
    vifByNameVismRunning name us = vifByNameVismRunning name vs := by
  have hkeys : ∀ vs : Vifs, (vs.findIdx? fun v => v.name == name && v.sm.virtIf.interfaceSmRunning) =
      (vifKeys vs).findIdx? fun k => k.1 == name && k.2 := by
    intro vs
    rw [vifKeys, List.findIdx?_map]
    rfl
  rw [vifByNameVismRunning, vifByNameVismRunning, hkeys, hkeys, h]

theorem vifByNameVismRunning_lt {vs : Vifs} {name : String} {j : Nat}
    (h : vifByNameVismRunning name vs = some j) : j < vs.length := by
  unfold vifByNameVismRunning at h
  split at h
  · cases h
  · exact (List.findIdx?_eq_some_iff_getElem.mp h).1

theorem running_takeMaptOffer (m : MaptOffer) (d : Ipv6Terms) (s : Vism) :
    (takeMaptOffer m d s).virtIf.interfaceSmRunning = s.virtIf.interfaceSmRunning := by
  unfold takeMaptOffer
  split
  · rfl
  · split <;> rfl

theorem running_apply (a : DhcpEventThreadArgs) (s : Vism) :
    (a.apply s).virtIf.interfaceSmRunning = s.virtIf.interfaceSmRunning := by
  obtain ⟨ifName, version, type, v4, v6, mapt⟩ := a
  cases version with
  | dhcpv4 => cases type <;> rfl
  | dhcpv6 =>
    cases type with
    | leaseUpdate => exact running_takeMaptOffer mapt v6 _
    | _ => rfl

theorem vifKeys_modify (vs : Vifs) (j : Nat) (a : DhcpEventThreadArgs) :
    vifKeys (vs.modify j fun v => { v with sm := a.apply v.sm }) = vifKeys vs := by
  apply List.ext_getElem?
  intro k
  simp only [vifKeys, List.getElem?_map, List.getElem?_modify]
  cases vs[k]? with
  | none => rfl
  | some v =>
    by_cases hj : j = k
    · simp [hj, running_apply]
    · simp [hj]

theorem vifKeys_thread (vs : Vifs) (a : DhcpEventThreadArgs) :
    vifKeys (eventsHandlerThread vs a) = vifKeys vs := by
  unfold eventsHandlerThread
  split
  · exact vifKeys_modify vs _ a
  · rfl

theorem getElem?_thread (vs : Vifs) (a : DhcpEventThreadArgs) (j : Nat) :
    (eventsHandlerThread vs a)[j]? =
      if vifByNameVismRunning a.ifName vs = some j then
        vs[j]?.map fun v => { v with sm := a.apply v.sm }
      else vs[j]? := by
  unfold eventsHandlerThread
  cases vifByNameVismRunning a.ifName vs with
  | none => simp
  | some k =>
    rw [List.getElem?_modify]
    by_cases hk : k = j <;> simp [hk]

/-- One register of one virtual interface of the table. -/
def vifRegister (vs₀ : Vifs) (j : Nat) (i : Reg) :
    Register eventsHandlerThread (fun vs => vifKeys vs = vifKeys vs₀) (Option RegValue) where
  read vs := vs[j]?.map fun v => i.read (leaseView v.sm)
  write a :=
    if vifByNameVismRunning a.ifName vs₀ = some j then (i.write a).map some else none
  keeps vs a h := (vifKeys_thread vs a).trans h
  reads vs a h := by
    rw [getElem?_thread, vifByNameVismRunning_congr h]
    split
    · next hfound =>
      rw [← vifByNameVismRunning_congr h] at hfound
      have hlt := vifByNameVismRunning_lt hfound
      simp only [List.getElem?_eq_getElem hlt, Option.map_some, Reg.read_apply]
      cases i.write a <;> rfl
    · rfl

/-! ## Every order -/

/-- The action of the thread of an event; an event of another table starts none. -/
def eventProgram (L : MsgLayout) (e : BusEvent) : List DhcpEventThreadArgs :=
  (eventsHandler L e).toList

/-- What the threads of the events are started with. -/
def threadArgs (L : MsgLayout) (es : List BusEvent) : List DhcpEventThreadArgs :=
  es.filterMap (eventsHandler L)

/-- The events, one by one. -/
def handleInOrder (L : MsgLayout) (es : List BusEvent) (vs : Vifs) : Vifs :=
  (threadArgs L es).foldl eventsHandlerThread vs

def leaseViews (vs : Vifs) : List LeaseView := vs.map fun v => leaseView v.sm

/-- Whatever order the threads take the mutex in, the leases and the clients end as if the
events had been handled one by one. -/
def OrderKept (L : MsgLayout) (es : List BusEvent) (vs : Vifs) : Prop :=
  ∀ h, Crowd.Completes (eventProgram L) es h →
    leaseViews (h.foldl eventsHandlerThread vs) = leaseViews (handleInOrder L es vs)

/-- No two of the events that reach an interface clash. -/
def NoClash (L : MsgLayout) (es : List BusEvent) (vs : Vifs) : Prop :=
  ∀ a ∈ threadArgs L es, ∀ b ∈ threadArgs L es, a.ifName = b.ifName →
    vifByNameVismRunning a.ifName vs ≠ none → ¬ Clash a b

theorem leaseViews_eq_iff {vs us : Vifs} (vs₀ : Vifs) :
    leaseViews vs = leaseViews us ↔
      ∀ j i, (vifRegister vs₀ j i).read vs = (vifRegister vs₀ j i).read us := by
  have hread : ∀ j i (vs : Vifs),
      (vifRegister vs₀ j i).read vs = ((leaseViews vs)[j]?).map i.read := by
    intro j i vs
    simp only [vifRegister, leaseViews, List.getElem?_map, Option.map_map]
    rfl
  simp only [hread]
  constructor
  · intro h j i
    rw [h]
  · intro h
    apply List.ext_getElem?
    intro j
    have hj := h j
    cases hv : (leaseViews vs)[j]? with
    | none =>
      cases hu : (leaseViews us)[j]? with
      | none => rfl
      | some u => simpa [hv, hu] using hj .ipv4Addr
    | some v =>
      cases hu : (leaseViews us)[j]? with
      | none => simpa [hv, hu] using hj .ipv4Addr
      | some u =>
        simp only [hv, hu, Option.map_some, Option.some.injEq] at hj
        rw [leaseView_ext hj]

theorem lastWrite_eventProgram (L : MsgLayout) {β : Type} (w : DhcpEventThreadArgs → Option β)
    (e : BusEvent) : Crowd.lastWrite w (eventProgram L e) = (eventsHandler L e).bind w := by
  unfold eventProgram
  cases eventsHandler L e with
  | none => rfl
  | some a => exact Crowd.lastWrite_cons a []

/-- The interface with a running machine that one name finds is found by no other. -/
theorem ifName_eq {vs : Vifs} {name name' : String} {j : Nat}
    (h : vifByNameVismRunning name vs = some j) (h' : vifByNameVismRunning name' vs = some j) :
    name = name' := by
  have hname : ∀ {name : String}, vifByNameVismRunning name vs = some j →
      ∃ v, vs[j]? = some v ∧ v.name = name := by
    intro name h
    unfold vifByNameVismRunning at h
    split at h
    · cases h
    · obtain ⟨hlt, hp, -⟩ := List.findIdx?_eq_some_iff_getElem.mp h
      rw [Bool.and_eq_true, beq_iff_eq] at hp
      exact ⟨vs[j], List.getElem?_eq_getElem hlt, hp.1⟩
  obtain ⟨v, hv, rfl⟩ := hname h
  obtain ⟨u, hu, rfl⟩ := hname h'
  rw [hv] at hu
  rw [Option.some.inj hu]

theorem differ_of_writes {vs : Vifs} {j : Nat} {i : Reg} {a b : DhcpEventThreadArgs}
    {x y : Option RegValue} (hx : (vifRegister vs j i).write a = some x)
    (hy : (vifRegister vs j i).write b = some y) (hne : x ≠ y) :
    vifByNameVismRunning a.ifName vs = some j ∧ a.ifName = b.ifName ∧ Clash a b := by
  simp only [vifRegister, Option.ite_none_right_eq_some, Option.map_eq_some_iff] at hx hy
  obtain ⟨hja, x', hx', rfl⟩ := hx
  obtain ⟨hjb, y', hy', rfl⟩ := hy
  exact ⟨hja, ifName_eq hja hjb, clash_iff.mpr ⟨i, x', y', hx', hy', fun h => hne (h ▸ rfl)⟩⟩

/-- The order of the events is kept exactly when no two of them clash. -/
theorem orderKept_iff (L : MsgLayout) (es : List BusEvent) (vs : Vifs) :
    OrderKept L es vs ↔ NoClash L es vs := by
  have hregisters : OrderKept L es vs ↔ ∀ j i, ∀ h, Crowd.Completes (eventProgram L) es h →
      (vifRegister vs j i).read (h.foldl eventsHandlerThread vs) =
        (vifRegister vs j i).read (handleInOrder L es vs) := by
    unfold OrderKept
    simp only [leaseViews_eq_iff vs]
    exact ⟨fun h j i r hr => h r hr j i, fun h r hr j i => h j i r hr⟩
  rw [hregisters]
  refine (forall_congr' fun j => forall_congr' fun i =>
    (vifRegister vs j i).always_iff rfl _).trans ?_
  simp only [lastWrite_eventProgram]
  constructor
  · intro h a ha b hb hname hfound hclash
    obtain ⟨j, hj⟩ := Option.ne_none_iff_exists'.mp hfound
    obtain ⟨i, x, y, hx, hy, hne⟩ := clash_iff.mp hclash
    obtain ⟨e, he, hea⟩ := List.mem_filterMap.mp ha
    obtain ⟨e', he', heb⟩ := List.mem_filterMap.mp hb
    have hxb := (h j i).1 e he (some x) (by simp [hea, vifRegister, hj, hx])
    have hyb := (h j i).1 e' he' (some y) (by simp [heb, vifRegister, ← hname, hj, hy])
    exact hne (Option.some.inj (hxb.trans hyb.symm))
  · intro hfree j i
    have hlast := (vifRegister vs j i).read_foldl (threadArgs L es) (s := vs) rfl
    rw [handleInOrder, hlast]
    constructor
    · intro e he c hc
      obtain ⟨a, hea, hac⟩ := Option.bind_eq_some_iff.mp hc
      have ha : a ∈ threadArgs L es := List.mem_filterMap.mpr ⟨e, he, hea⟩
      cases hw : Crowd.lastWrite (vifRegister vs j i).write (threadArgs L es) with
      | none =>
        rw [Crowd.lastWrite_eq_none] at hw
        rw [hw a ha] at hac
        cases hac
      | some c' =>
        obtain ⟨b, hb, hbc⟩ := Crowd.lastWrite_mem hw
        by_contra hne
        obtain ⟨hj, hname, hclash⟩ := differ_of_writes hac hbc hne
        exact hfree a ha b hb hname (by simp [hj]) hclash
    · intro hnone
      have hw : Crowd.lastWrite (vifRegister vs j i).write (threadArgs L es) = none := by
        rw [Crowd.lastWrite_eq_none]
        intro a ha
        obtain ⟨e, he, hea⟩ := List.mem_filterMap.mp ha
        have hbind := hnone e he
        rwa [hea] at hbind
      rw [hw]
      rfl

namespace Example

def text (b : List UInt8) : String := String.ofList (b.map fun c => Char.ofNat c.toNat)

/-- Messages that are one address. -/
def layout : MsgLayout where
  ipv4Size := 9
  ipv4Of b := { ip := text b }
  ipv6Size := 11
  ipv6Of b := ({ address := text b }, {})

/-- `192.0.2.1` -/
def addressBytes : List UInt8 := [49, 57, 50, 46, 48, 46, 50, 46, 49]

def update : BusEvent where
  eventName := "Device.DHCPv4.Client.1.Events"
  ifName := "erouter0"
  msgType := .leaseUpdate
  leaseInfo := addressBytes

def delete : BusEvent where
  eventName := "Device.DHCPv4.Client.1.Events"
  ifName := "erouter0"
  msgType := .leaseDel

def vifs : Vifs := [{ name := "erouter0", sm := { virtIf := { interfaceSmRunning := true } } }]

/-- The thread of the second event takes the mutex first. -/
theorem overtaken : Crowd.Completes (eventProgram layout) [update, delete]
    (eventProgram layout delete ++ eventProgram layout update) := by
  have hu : eventProgram layout update = [{
      ifName := "erouter0", version := .dhcpv4, type := .leaseUpdate, v4 := { ip := "192.0.2.1" } }] := by
    decide +kernel
  have hd : eventProgram layout delete =
      [{ ifName := "erouter0", version := .dhcpv4, type := .leaseDel }] := by
    decide +kernel
  refine ⟨[[], []], ?_, by simp⟩
  rw [hu, hd]
  have hstart := Crowd.steps_arrive (eventProgram layout) [update, delete] [] []
  simp only [List.map_cons, List.map_nil, List.nil_append, hu, hd] at hstart
  exact (hstart.tail (.act [] [_] _ [] [] [])).tail (.act [] [] _ [] [[]] _)

end Example

open Example in
/-- A lease that was deleted comes back. -/
theorem order_not_kept : ¬ ∀ L es vs, OrderKept L es vs := by
  intro h
  exact absurd (h layout [update, delete] vifs _ overtaken) (by decide +kernel)

/-! ## In order -/

/-- The lease of a family that was received: the last one of its length, unless it was
deleted since. -/
def receive (L : MsgLayout) (v : DhcpVersion) (o : Option (List UInt8)) (e : BusEvent) :
    Option (List UInt8) :=
  if eventVersion e = some v then
    match e.msgType with
    | .leaseUpdate => if fits L v e then some e.leaseInfo else o
    | .leaseDel => none
    | _ => o
  else o

/-- The interface an event is for. -/
def reaches (vs : Vifs) (e : BusEvent) : Option Nat :=
  vifByNameVismRunning (String.ofList (e.ifName.toList.take ifNameLength)) vs

/-- The lease a virtual interface has received. -/
def received (L : MsgLayout) (vs : Vifs) (j : Nat) (v : DhcpVersion) (es : List BusEvent) :
    Option (List UInt8) :=
  (es.filter fun e => reaches vs e == some j).foldl (receive L v) none

def statusOf (v : DhcpVersion) (s : LeaseView) : LeaseStatus :=
  match v with
  | .dhcpv4 => s.ipv4Status
  | .dhcpv6 => s.ipv6Status

/-- The lease of a family, all that an event tells of it. -/
inductive Lease where
  | v4 (d : Ipv4Terms)
  | v6 (d : Ipv6Terms)
  deriving DecidableEq

def storedLease (v : DhcpVersion) (s : LeaseView) : Lease :=
  match v with
  | .dhcpv4 => .v4 s.ipv4Data.toIpv4Terms
  | .dhcpv6 => .v6 s.ipv6Data.toIpv6Terms

def leaseOf (L : MsgLayout) (v : DhcpVersion) (b : List UInt8) : Lease :=
  match v with
  | .dhcpv4 => .v4 (L.ipv4Of b)
  | .dhcpv6 => .v6 (L.ipv6Of b).1

/-- The lease a message of the wrong length leaves. -/
def zeroLease : DhcpVersion → Lease
  | .dhcpv4 => .v4 {}
  | .dhcpv6 => .v6 {}

/-- A lease that is up is the one received. -/
def UpIsReceived (L : MsgLayout) (v : DhcpVersion) (o : Option (List UInt8)) (s : LeaseView) : Prop :=
  statusOf v s = .up → ∃ b, o = some b ∧ storedLease v s = leaseOf L v b

/-- An event that only makes a lease up that was received: a renewal comes for a lease that
is up, and an update has its length, unless it changes nothing. -/
def Founded (L : MsgLayout) (v : DhcpVersion) (e : BusEvent) (s : LeaseView) : Prop :=
  match e.msgType with
  | .leaseRenew => statusOf v s = .up
  | .leaseUpdate => fits L v e ∨ (statusOf v s = .up ∧ storedLease v s = zeroLease v)
  | _ => True

/-- The lease the thread of an update stores. -/
def updatedLease (L : MsgLayout) (v : DhcpVersion) (e : BusEvent) : Lease :=
  if fits L v e then leaseOf L v e.leaseInfo else zeroLease v

theorem eventsHandler_eq (L : MsgLayout) (e : BusEvent) {v : DhcpVersion}
    (hv : eventVersion e = some v) : ∃ a, eventsHandler L e = some a ∧ a.version = v ∧
      a.ifName = String.ofList (e.ifName.toList.take ifNameLength) ∧ a.type = e.msgType := by
  refine ⟨_, by rw [eventsHandler, hv, Option.map_some], ?_⟩
  split
  · cases v <;> exact ⟨rfl, rfl, rfl⟩
  · exact ⟨rfl, rfl, rfl⟩

theorem status_apply (a : DhcpEventThreadArgs) (v : DhcpVersion) (s : Vism) :
    statusOf v (leaseView (a.apply s)) =
      if a.version = v then (leaseStatus a.type).getD (statusOf v (leaseView s))
      else statusOf v (leaseView s) := by
  have hread := Reg.read_apply (.status v) a s
  have hstatus : ∀ s, Reg.read (.status v) s = .status (statusOf v s) := by
    intro s
    cases v <;> rfl
  have hversion : (Reg.status v).version = v := rfl
  rw [hstatus, hstatus, Reg.write, hversion] at hread
  split
  · next hv =>
    rw [if_pos hv] at hread
    unfold Reg.writeOwn at hread
    cases hl : leaseStatus a.type <;> simpa [hl] using hread
  · next hv =>
    rw [if_neg hv] at hread
    exact RegValue.status.inj hread

/-- Only an update or a deletion of its family touches a lease. -/
theorem storedLease_apply_other (a : DhcpEventThreadArgs) (v : DhcpVersion) (s : Vism)
    (h : a.version ≠ v ∨ (a.type ≠ .leaseUpdate ∧ a.type ≠ .leaseDel)) :
    storedLease v (leaseView (a.apply s)) = storedLease v (leaseView s) := by
  obtain ⟨ifName, version, type, v4, v6, mapt⟩ := a
  cases version with
  | dhcpv4 =>
    cases type with
    | leaseUpdate =>
      cases v with
      | dhcpv4 => simp_all
      | dhcpv6 => rfl
    | leaseDel =>
      cases v with
      | dhcpv4 => simp_all
      | dhcpv6 => rfl
    | _ => cases v <;> rfl
  | dhcpv6 =>
    cases type with
    | leaseUpdate =>
      cases v with
      | dhcpv4 =>
        rw [leaseView_update6]
        rfl
      | dhcpv6 => simp_all
    | leaseDel =>
      cases v with
      | dhcpv4 => rfl
      | dhcpv6 => simp_all
    | _ => cases v <;> rfl

theorem storedLease_update (L : MsgLayout) (e : BusEvent) {v : DhcpVersion} (s : Vism)
    {a : DhcpEventThreadArgs} (hv : eventVersion e = some v) (ha : eventsHandler L e = some a)
    (ht : e.msgType = .leaseUpdate) :
    storedLease v (leaseView (a.apply s)) = updatedLease L v e := by
  rw [eventsHandler, hv, Option.map_some, Option.some.injEq] at ha
  subst ha
  unfold updatedLease
  cases v with
  | dhcpv4 => cases hfits : fits L .dhcpv4 e <;> simp [ht] <;> rfl
  | dhcpv6 => cases hfits : fits L .dhcpv6 e <;> simp [ht] <;> rw [leaseView_update6] <;> rfl

/-- One event of the family: what is up stays received exactly when the event is founded. -/
theorem upIsReceived_step (L : MsgLayout) {v : DhcpVersion} {e : BusEvent} {s : Vism}
    {a : DhcpEventThreadArgs} {o : Option (List UInt8)} (hv : eventVersion e = some v)
    (ha : eventsHandler L e = some a) (hup : UpIsReceived L v o (leaseView s))
    (htold : o ≠ none → statusOf v (leaseView s) = .up) :
    UpIsReceived L v (receive L v o e) (leaseView (a.apply s)) ↔ Founded L v e (leaseView s) := by
  obtain ⟨a', ha', haver, -, hatype⟩ := eventsHandler_eq L e hv
  obtain rfl : a' = a := Option.some.inj (ha'.symm.trans ha)
  have hstatus := status_apply a' v s
  rw [if_pos haver, hatype] at hstatus
  have hkept : e.msgType ≠ .leaseUpdate → e.msgType ≠ .leaseDel →
      storedLease v (leaseView (a'.apply s)) = storedLease v (leaseView s) := fun hu hd =>
    storedLease_apply_other a' v s (.inr ⟨hatype ▸ hu, hatype ▸ hd⟩)
  unfold UpIsReceived receive Founded
  rw [if_pos hv, hstatus]
  cases ht : e.msgType with
  | leaseUpdate =>
    simp only [leaseStatus, Option.getD_some, true_imp_iff, storedLease_update L e s hv ha ht,
      updatedLease]
    cases hfits : fits L v e with
    | true => simp
    | false =>
      simp only [Bool.false_eq_true, if_false, false_or]
      constructor
      · rintro ⟨b, rfl, hb⟩
        have hst := htold (by simp)
        obtain ⟨b', hb', hlease⟩ := hup hst
        cases hb'
        exact ⟨hst, hlease.trans hb.symm⟩
      · rintro ⟨hst, hzero⟩
        obtain ⟨b, rfl, hlease⟩ := hup hst
        exact ⟨b, rfl, hzero.symm.trans hlease⟩
  | leaseDel => simp [leaseStatus]
  | leaseRenew =>
    simp only [leaseStatus, Option.getD_some, true_imp_iff]
    rw [hkept (by simp [ht]) (by simp [ht])]
    constructor
    · rintro ⟨b, rfl, -⟩
      exact htold (by simp)
    · exact hup
  | clientStarted | clientStopped | clientFailed | unknown =>
    simp only [leaseStatus, Option.getD_none, iff_true]
    rw [hkept (by simp [ht]) (by simp [ht])]
    exact hup

/-- A lease that was received is up. -/
theorem told_step (L : MsgLayout) {v : DhcpVersion} {e : BusEvent} {s : Vism}
    {a : DhcpEventThreadArgs} {o : Option (List UInt8)} (hv : eventVersion e = some v)
    (ha : eventsHandler L e = some a) (htold : o ≠ none → statusOf v (leaseView s) = .up) :
    receive L v o e ≠ none → statusOf v (leaseView (a.apply s)) = .up := by
  obtain ⟨a', ha', haver, -, hatype⟩ := eventsHandler_eq L e hv
  obtain rfl : a' = a := Option.some.inj (ha'.symm.trans ha)
  rw [status_apply, if_pos haver, hatype, receive, if_pos hv]
  cases ht : e.msgType with
  | leaseUpdate => intro; rfl
  | leaseDel => intro h; exact absurd rfl h
  | leaseRenew => intro; rfl
  | clientStarted | clientStopped | clientFailed | unknown => exact htold

/-- The virtual interface at one place of the table. -/
def vifAt (vs : Vifs) (j : Nat) : Option Vism := vs[j]?.map (·.sm)

/-- Every lease that is up was received. -/
def AllUpAreReceived (L : MsgLayout) (vs : Vifs) (es : List BusEvent) : Prop :=
  ∀ j v s, vifAt (handleInOrder L es vs) j = some s →
    UpIsReceived L v (received L vs j v es) (leaseView s)

/-- The event is founded where it arrives, if it does. -/
def FoundedAfter (L : MsgLayout) (vs : Vifs) (es : List BusEvent) (e : BusEvent) : Prop :=
  ∀ j v s, reaches vs e = some j → eventVersion e = some v →
    vifAt (handleInOrder L es vs) j = some s → Founded L v e (leaseView s)

theorem vifKeys_handleInOrder (L : MsgLayout) (es : List BusEvent) (vs : Vifs) :
    vifKeys (handleInOrder L es vs) = vifKeys vs := by
  unfold handleInOrder
  induction threadArgs L es generalizing vs with
  | nil => rfl
  | cons a h ih => exact (ih _).trans (vifKeys_thread vs a)

theorem received_append (L : MsgLayout) (vs : Vifs) (j : Nat) (v : DhcpVersion)
    (es : List BusEvent) (e : BusEvent) : received L vs j v (es ++ [e]) =
      if reaches vs e = some j then receive L v (received L vs j v es) e
      else received L vs j v es := by
  unfold received
  by_cases h : reaches vs e = some j <;> simp [List.filter_append, h]

/-- One more event, at one place of the table. -/
theorem vifAt_append (L : MsgLayout) (es : List BusEvent) (e : BusEvent) (vs : Vifs) (j : Nat) :
    vifAt (handleInOrder L (es ++ [e]) vs) j =
      match eventsHandler L e with
      | some a =>
        if reaches vs e = some j then (vifAt (handleInOrder L es vs) j).map a.apply
        else vifAt (handleInOrder L es vs) j
      | none => vifAt (handleInOrder L es vs) j := by
  have hargs : threadArgs L (es ++ [e]) = threadArgs L es ++ (eventsHandler L e).toList := by
    unfold threadArgs
    rw [List.filterMap_append]
    cases he : eventsHandler L e <;> simp [he]
  unfold handleInOrder
  rw [hargs, List.foldl_append]
  cases he : eventsHandler L e with
  | none => rfl
  | some a =>
    have hname : a.ifName = String.ofList (e.ifName.toList.take ifNameLength) := by
      cases hv : eventVersion e with
      | none => simp [eventsHandler, hv] at he
      | some v =>
        obtain ⟨a', ha', -, hname, -⟩ := eventsHandler_eq L e hv
        rw [← hname, Option.some.inj (he.symm.trans ha')]
    have hkeys := vifKeys_handleInOrder L es vs
    unfold handleInOrder at hkeys
    have hreaches : reaches vs e =
        vifByNameVismRunning (String.ofList (e.ifName.toList.take ifNameLength)) vs := rfl
    simp only [Option.toList_some, List.foldl_cons, List.foldl_nil, vifAt, getElem?_thread,
      vifByNameVismRunning_congr hkeys, hname, ← hreaches]
    by_cases hreach : reaches vs e = some j
    · rw [if_pos hreach, if_pos hreach, Option.map_map, Option.map_map]
      rfl
    · rw [if_neg hreach, if_neg hreach]

/-- An event for another interface or another family. -/
structure Passes (v : DhcpVersion) (u s : Vism) (o o' : Option (List UInt8)) : Prop where
  status : statusOf v (leaseView s) = statusOf v (leaseView u)
  lease : storedLease v (leaseView s) = storedLease v (leaseView u)
  received : o' = o

/-- An event of the family, for the interface. -/
structure Arrives (L : MsgLayout) (vs : Vifs) (j : Nat) (v : DhcpVersion) (e : BusEvent) (u s : Vism)
    (o o' : Option (List UInt8)) : Prop where
  reaches : reaches vs e = some j
  version : eventVersion e = some v
  handled : ∃ a, eventsHandler L e = some a ∧ s = a.apply u
  received : o' = receive L v o e

theorem event_cases (L : MsgLayout) {es : List BusEvent} {e : BusEvent} {vs : Vifs} {j : Nat}
    (v : DhcpVersion) {s : Vism} (hs : vifAt (handleInOrder L (es ++ [e]) vs) j = some s) :
    ∃ u, vifAt (handleInOrder L es vs) j = some u ∧
      (Passes v u s (received L vs j v es) (received L vs j v (es ++ [e])) ∨
        Arrives L vs j v e u s (received L vs j v es) (received L vs j v (es ++ [e]))) := by
  rw [vifAt_append] at hs
  have hversion : eventsHandler L e = none → eventVersion e = none := by
    intro ha
    cases hv : eventVersion e with
    | none => rfl
    | some v' => simp [eventsHandler, hv] at ha
  cases ha : eventsHandler L e with
  | none =>
    rw [ha] at hs
    exact ⟨s, hs, .inl ⟨rfl, rfl, by simp [received_append, receive, hversion ha]⟩⟩
  | some a =>
    rw [ha] at hs
    by_cases hreach : reaches vs e = some j
    · simp only [hreach, if_true, Option.map_eq_some_iff] at hs
      obtain ⟨u, hu, rfl⟩ := hs
      refine ⟨u, hu, ?_⟩
      have hreceived := received_append L vs j v es e
      rw [if_pos hreach] at hreceived
      by_cases hv : eventVersion e = some v
      · exact .inr ⟨hreach, hv, ⟨a, ha, rfl⟩, hreceived⟩
      · have hother : a.version ≠ v := by
          cases hv' : eventVersion e with
          | none => simp [eventsHandler, hv'] at ha
          | some v' =>
            obtain ⟨a', ha', haver, -⟩ := eventsHandler_eq L e hv'
            rw [Option.some.inj (ha.symm.trans ha'), haver]
            exact fun h => hv (h ▸ hv')
        refine .inl ⟨?_, storedLease_apply_other a v u (.inl hother), ?_⟩
        · rw [status_apply, if_neg hother]
        · rw [hreceived, receive, if_neg hv]
    · simp only [hreach, if_false] at hs
      exact ⟨s, hs, .inl ⟨rfl, rfl, by rw [received_append, if_neg hreach]⟩⟩

/-- A table where no lease is up. -/
def NoLease (vs : Vifs) : Prop := ∀ j v s, vifAt vs j = some s → statusOf v (leaseView s) ≠ .up

theorem received_up (L : MsgLayout) (vs : Vifs) (es : List BusEvent) {j : Nat} {v : DhcpVersion}
    {s : Vism} (hs : vifAt (handleInOrder L es vs) j = some s) (hr : received L vs j v es ≠ none) :
    statusOf v (leaseView s) = .up := by
  induction es using List.reverseRecOn generalizing s with
  | nil => exact absurd rfl hr
  | append_singleton es e ih =>
    obtain ⟨u, hu, hpass | harrive⟩ := event_cases L v hs
    · rw [hpass.received] at hr
      exact hpass.status.trans (ih hu hr)
    · rw [harrive.received] at hr
      obtain ⟨a, ha, rfl⟩ := harrive.handled
      exact told_step L harrive.version ha (ih hu) hr

/-- One more event: what is up stays received exactly when the event is founded. -/
theorem allUpAreReceived_append (L : MsgLayout) (vs : Vifs) (es : List BusEvent) (e : BusEvent)
    (hup : AllUpAreReceived L vs es) :
    AllUpAreReceived L vs (es ++ [e]) ↔ FoundedAfter L vs es e := by
  constructor
  · intro hnext j v u hreach hv hu
    obtain ⟨a, ha, -⟩ := eventsHandler_eq L e hv
    have hs : vifAt (handleInOrder L (es ++ [e]) vs) j = some (a.apply u) := by
      rw [vifAt_append, ha]
      simp [hreach, hu]
    have hafter := hnext j v _ hs
    rw [received_append, if_pos hreach] at hafter
    exact (upIsReceived_step L hv ha (hup j v u hu) (received_up L vs es hu)).mp hafter
  · intro hfounded j v s hs
    obtain ⟨u, hu, hpass | harrive⟩ := event_cases L v hs
    · have hbefore := hup j v u hu
      unfold UpIsReceived at hbefore ⊢
      rwa [hpass.status, hpass.lease, hpass.received]
    · rw [harrive.received]
      obtain ⟨a, ha, rfl⟩ := harrive.handled
      exact (upIsReceived_step L harrive.version ha (hup j v u hu) (received_up L vs es hu)).mpr
        (hfounded j v u harrive.reaches harrive.version hu)

/-- In the order of the events, a lease is up only when it was received, as long as, and no
longer than, every event is founded. -/
theorem up_is_received_iff (L : MsgLayout) (es : List BusEvent) (vs : Vifs) (hnone : NoLease vs) :
    (∀ pre, pre <+: es → AllUpAreReceived L vs pre) ↔
      ∀ pre e, pre ++ [e] <+: es → FoundedAfter L vs pre e := by
  constructor
  · intro hup pre e hpre
    have hbefore := hup pre ((List.prefix_append pre [e]).trans hpre)
    exact (allUpAreReceived_append L vs pre e hbefore).mp (hup _ hpre)
  · intro hfounded pre
    induction pre using List.reverseRecOn with
    | nil => exact fun _ j v s hs hst => absurd hst (hnone j v s hs)
    | append_singleton pre e ih =>
      intro hpre
      have hbefore := ih ((List.prefix_append pre [e]).trans hpre)
      exact (allUpAreReceived_append L vs pre e hbefore).mpr (hfounded pre e hpre)

namespace Example

def renew : BusEvent where
  eventName := "Device.DHCPv4.Client.1.Events"
  ifName := "erouter0"
  msgType := .leaseRenew

theorem vifs_no_lease : NoLease vifs := by
  intro j v s hs
  cases j with
  | zero =>
    obtain rfl := Option.some.inj hs
    cases v <;> exact LeaseStatus.noConfusion
  | succ j => cases hs

end Example

open Example in
theorem up_is_received_of_update :
    NoLease vifs ∧ ∀ pre, pre <+: [update] → AllUpAreReceived layout vifs pre := by
  refine ⟨vifs_no_lease, (up_is_received_iff layout [update] vifs vifs_no_lease).mpr ?_⟩
  intro pre e hpre j v s _ hv _
  have he : e = update := by
    obtain ⟨t, ht⟩ := hpre
    cases pre with
    | nil => simpa using (List.cons.inj ht).1
    | cons p pre => simp at ht
  subst he
  have hversion : eventVersion update = some .dhcpv4 := by decide +kernel
  obtain rfl := Option.some.inj (hversion.symm.trans hv)
  exact .inl (by decide +kernel)

open Example in
/-- A renewal makes a deleted lease up again. -/
theorem deleted_lease_up : ¬ ∀ L es vs, NoLease vs → AllUpAreReceived L vs es := by
  intro h
  obtain ⟨b, hb, -⟩ := h layout [update, delete, renew] vifs vifs_no_lease 0 .dhcpv4 _ rfl
    (by decide +kernel)
  have hdeleted : received layout vifs 0 .dhcpv4 [update, delete, renew] = none := by decide +kernel
  rw [hdeleted] at hb
  cases hb

end DhcpEvents
end WanManager
