import WanManager.Types
import WanManager.Wire.Records

/-! # The route monitor

`netmonitor` reads route events of the kernel, each a message of a netlink datagram, and sets the
sysevent `ipv6Toggle` when the default route comes and goes. It keeps one flag for all default
routes. -/

namespace WanManager

namespace RouteMonitor

open Wire

/-! ## Messages of the kernel -/

/-- `struct nlmsghdr`; the length comes first. -/
def nlmsg : Layout := ⟨16, 4, by decide, by decide⟩

/-- `struct rtattr`; the length comes first. -/
def rtattr : Layout := ⟨4, 2, by decide, by decide⟩

def NLMSG_ERROR := 2
def NLMSG_DONE := 3
def RTM_NEWROUTE := 24
def RTM_DELROUTE := 25
def RT_TABLE_MAIN : UInt8 := 254
def AF_INET6 : UInt8 := 10
def RTA_DST := 1
def RTA_MAX := 30

/-- `nlmsg_type` -/
def nlmsgType (order : ByteOrder) (msg : List UInt8) : Nat := order.value ((msg.drop 4).take 2)

/-- `rta_type` -/
def rtaType (order : ByteOrder) (rta : List UInt8) : Nat := order.value ((rta.drop 2).take 2)

/-! ## The monitor -/

/-- What the process keeps, and the values that the sysevent `ipv6Toggle` has been set to. -/
structure Monitor where
  gToggleFlag : Bool := true
  gwV6Flag : Bool := false
  ipv6Toggle : List String := []
  deriving DecidableEq, Repr

/-- `parse_rtattr`: the attribute of each type, the last one of several. -/
def parseRtattr (order : ByteOrder) (max : Nat) (rta : List UInt8) : List (Option (List UInt8)) :=
  (rtattr.records order rta).1.foldl
    (fun tb rta => if rtaType order rta ≤ max then tb.set (rtaType order rta) (some rta) else tb)
    (List.replicate (max + 1) none)

/-- `isDefaultGatewaypresent` -/
def isDefaultGatewaypresent (order : ByteOrder) (nlmsgHdr : List UInt8) : AnscStatus :=
  match nlmsgHdr.drop 16 with
  | _ :: dstLen :: _ :: _ :: table :: _ :: _ :: _ :: _ :: _ :: _ :: _ :: rta =>
    -- only the main routing table
    if table ≠ RT_TABLE_MAIN then .failure
    else
      let tb := parseRtattr order RTA_MAX rta
      if tb[RTA_DST]?.join = none ∧ dstLen = 0 then .success else .failure
  | _ => .failure

/-- `NetMonitor_DoToggleV6Status` -/
def doToggleV6Status (flag : Bool) (m : Monitor) : Monitor :=
  if flag then { m with gToggleFlag := false, ipv6Toggle := m.ipv6Toggle ++ ["TRUE"] }
  else { m with gToggleFlag := false, ipv6Toggle := m.ipv6Toggle ++ ["FALSE"] }

/-- The `switch` over the types of messages. -/
def dispatch (order : ByteOrder) (msg : List UInt8) (m : Monitor) : Monitor :=
  if nlmsgType order msg = RTM_NEWROUTE then
    if isDefaultGatewaypresent order msg = .success ∧ m.gwV6Flag = false then
      { doToggleV6Status false m with gwV6Flag := true }
    else m
  else if nlmsgType order msg = RTM_DELROUTE then
    if isDefaultGatewaypresent order msg = .success ∧ m.gwV6Flag = true then
      { doToggleV6Status true m with gwV6Flag := false }
    else m
  else m

/-- The loop over the messages; `none` goes on behind the bytes that have been received. -/
def readAll (order : ByteOrder) : List (List UInt8) → Stop → Monitor → Option Monitor
  | [], .done, m => some m
  | [], .past, _ => none
  | msg :: msgs, stop, m =>
    if nlmsgType order msg = NLMSG_DONE ∨ nlmsgType order msg = NLMSG_ERROR then some m
    else readAll order msgs stop (dispatch order msg m)

/-- `NetMonitor_ProcessNetlinkRouteMonitorFd` with a datagram, of which `buf` takes 8192 bytes. -/
def processNetlinkRouteMonitorFd (order : ByteOrder) (datagram : List UInt8) (m : Monitor) :
    Option Monitor :=
  let buf := datagram.take 8192
  if buf = [] then some m
  else
    let msgs := nlmsg.records order buf
    readAll order msgs.1 msgs.2 m

/-! ## Routes -/

/-- A route attribute. -/
structure Attr where
  type : UInt16
  value : List UInt8
  deriving DecidableEq, Repr

/-- An IPv6 route of the main table. Its destination, unless it is the default route, its gateway,
its device and the rest are attributes. -/
structure Route where
  dstLen : UInt8
  attrs : List Attr
  dst : dstLen = 0 ↔ ∀ a ∈ attrs, a.type.toNat ≠ RTA_DST
  deriving DecidableEq

def Route.IsDefault (r : Route) : Prop := r.dstLen = 0

instance (r : Route) : Decidable r.IsDefault := inferInstanceAs (Decidable (_ = _))

/-- A change of the table. -/
inductive Change where
  | add (r : Route)
  | del (r : Route)
  deriving DecidableEq

def Change.route : Change → Route
  | .add r => r
  | .del r => r

def Change.type : Change → Nat
  | .add _ => RTM_NEWROUTE
  | .del _ => RTM_DELROUTE

/-- A change with the fields of its message that do not matter. -/
structure Notice where
  change : Change
  flags : UInt16 := 0
  seq : UInt32 := 0
  pid : UInt32 := 0
  srcLen : UInt8 := 0
  tos : UInt8 := 0
  protocol : UInt8 := 0
  scope : UInt8 := 0
  kind : UInt8 := 0
  rtmFlags : UInt32 := 0

/-- An attribute as it stands in a message. -/
def Attr.bytes (order : ByteOrder) (a : Attr) : List UInt8 :=
  order.bytes 2 (4 + a.value.length) ++ order.bytes 2 a.type.toNat ++ a.value

/-- `struct rtmsg` and the attributes behind it -/
def Notice.payload (order : ByteOrder) (n : Notice) : List UInt8 :=
  [AF_INET6, n.change.route.dstLen, n.srcLen, n.tos, RT_TABLE_MAIN, n.protocol, n.scope, n.kind] ++
    order.bytes 4 n.rtmFlags.toNat ++
    (n.change.route.attrs.map (Attr.bytes order)).flatMap Layout.padded

/-- The message of a change. -/
def Notice.bytes (order : ByteOrder) (n : Notice) : List UInt8 :=
  order.bytes 4 (16 + (n.payload order).length) ++ order.bytes 2 n.change.type ++
    order.bytes 2 n.flags.toNat ++ order.bytes 4 n.seq.toNat ++ order.bytes 4 n.pid.toNat ++
    n.payload order

/-- A datagram of messages. -/
def datagram (order : ByteOrder) (notices : List Notice) : List UInt8 :=
  (notices.map (Notice.bytes order)).flatMap Layout.padded

/-! ## What the toggle is for -/

/-- The routes of the main table. -/
abbrev Table := List Route

def HasDefault (table : Table) : Prop := ∃ r ∈ table, r.IsDefault

instance (table : Table) : Decidable (HasDefault table) :=
  inferInstanceAs (Decidable (∃ r ∈ table, _))

def Change.apply : Change → Table → Table
  | .add r, table => r :: table
  | .del r, table => table.erase r

def applyAll (cs : List Change) (table : Table) : Table :=
  cs.foldl (fun table c => c.apply table) table

/-- What is added is new, and what is deleted is there. -/
def Change.Valid : Change → Table → Prop
  | .add r, table => r ∉ table
  | .del r, table => r ∈ table

instance : ∀ c table, Decidable (Change.Valid c table)
  | .add r, table => inferInstanceAs (Decidable (r ∉ table))
  | .del r, table => inferInstanceAs (Decidable (r ∈ table))

/-- The toggle at a change of the table: `TRUE` when the last default route has gone and `FALSE`
when the first one has come. -/
def due (before after : Table) : List String :=
  if HasDefault before then if HasDefault after then [] else ["TRUE"]
  else if HasDefault after then ["FALSE"] else []

/-- The toggles at changes, one after another. -/
def dueAll : List Change → Table → List String
  | [], _ => []
  | c :: cs, table => due table (c.apply table) ++ dueAll cs (c.apply table)

/-- Every change of a run meets a condition. -/
def Throughout (P : Change → Table → Prop) : List Change → Table → Prop
  | [], _ => True
  | c :: cs, table => P c table ∧ Throughout P cs (c.apply table)

instance (P : Change → Table → Prop) [∀ c table, Decidable (P c table)] :
    ∀ cs table, Decidable (Throughout P cs table)
  | [], _ => .isTrue trivial
  | c :: cs, table =>
    have := instDecidableThroughout P cs (c.apply table)
    inferInstanceAs (Decidable (P c table ∧ Throughout P cs (c.apply table)))

/-- With every datagram the monitor sets the toggles that are due for its changes. -/
def Follows (order : ByteOrder) : List (List Notice) → Table → Monitor → Prop
  | [], _, _ => True
  | notices :: rest, table, m =>
    ∃ m', processNetlinkRouteMonitorFd order (datagram order notices) m = some m' ∧
      m'.ipv6Toggle = m.ipv6Toggle ++ dueAll (notices.map Notice.change) table ∧
      Follows order rest (applyAll (notices.map Notice.change) table) m'

/-- A default route that is deleted is the last one. -/
def LastOne : Change → Table → Prop
  | .add _, _ => True
  | .del r, table => r.IsDefault → ¬ HasDefault (table.erase r)

instance : ∀ c table, Decidable (LastOne c table)
  | .add _, _ => .isTrue trivial
  | .del r, table => inferInstanceAs (Decidable (r.IsDefault → ¬ HasDefault (table.erase r)))

/-! ## Reading a message -/

variable {order : ByteOrder}

theorem rtaType_bytes (a : Attr) : rtaType order (a.bytes order) = a.type.toNat := by
  have hdrop : (a.bytes order).drop 2 = order.bytes 2 a.type.toNat ++ a.value := by
    rw [Attr.bytes, List.append_assoc, List.drop_left' (order.length_bytes 2 _)]
  have hlt := a.type.toNat_lt
  rw [rtaType, hdrop, List.take_left' (order.length_bytes 2 _), order.value_bytes (by omega)]

theorem isRecord_attr {a : Attr} (h : (a.bytes order).length < 65536) :
    rtattr.IsRecord order (a.bytes order) := by
  have hlength : (a.bytes order).length = 4 + a.value.length := by
    simp only [Attr.bytes, List.length_append, ByteOrder.length_bytes]
  refine ⟨by rw [hlength]; exact Nat.le_add_right 4 _, ?_⟩
  have htake : (a.bytes order).take 2 = order.bytes 2 (4 + a.value.length) := by
    rw [Attr.bytes, List.append_assoc, List.take_left' (order.length_bytes 2 _)]
  change order.value ((a.bytes order).take 2) = _
  rw [htake, order.value_bytes (by omega), hlength]

theorem isRecord_notice {n : Notice} (h : (n.bytes order).length ≤ 8192) :
    nlmsg.IsRecord order (n.bytes order) := by
  have hlength : (n.bytes order).length = 16 + (n.payload order).length := by
    simp only [Notice.bytes, List.length_append, ByteOrder.length_bytes]
  refine ⟨by rw [hlength]; exact Nat.le_add_right 16 _, ?_⟩
  have htake : (n.bytes order).take 4 = order.bytes 4 (16 + (n.payload order).length) := by
    simp only [Notice.bytes, List.append_assoc]
    rw [List.take_left' (order.length_bytes 4 _)]
  change order.value ((n.bytes order).take 4) = _
  rw [htake, order.value_bytes (by omega), hlength]

theorem nlmsgType_bytes (n : Notice) : nlmsgType order (n.bytes order) = n.change.type := by
  have hlt : n.change.type < 256 ^ 2 := by
    cases n.change <;> simp [Change.type, RTM_NEWROUTE, RTM_DELROUTE]
  simp only [nlmsgType, Notice.bytes, List.append_assoc]
  rw [List.drop_left' (order.length_bytes 4 _), List.take_left' (order.length_bytes 2 _),
    order.value_bytes hlt]

/-- An entry of the table of attributes is empty when no attribute has its type. -/
theorem foldl_attr {max i : Nat} (hi : i ≤ max) (rtas : List (List UInt8))
    {tb : List (Option (List UInt8))} (htb : tb.length = max + 1) :
    (rtas.foldl (fun tb rta =>
      if rtaType order rta ≤ max then tb.set (rtaType order rta) (some rta) else tb) tb)[i]?.join =
        none ↔ tb[i]?.join = none ∧ ∀ rta ∈ rtas, rtaType order rta ≠ i := by
  induction rtas generalizing tb with
  | nil => simp
  | cons rta rtas ih =>
    rw [List.foldl_cons]
    split
    · rename_i hle
      rw [ih (by rw [List.length_set]; exact htb), List.forall_mem_cons, ← and_assoc]
      refine and_congr_left fun _ => ?_
      by_cases heq : rtaType order rta = i
      · subst heq
        simp [List.getElem?_set_self (show rtaType order rta < tb.length by omega)]
      · simp [List.getElem?_set_ne heq, heq]
    · rename_i hgt
      have hne : rtaType order rta ≠ i := by omega
      rw [ih htb, List.forall_mem_cons]
      simp [hne]

theorem parseRtattr_dst {attrs : List Attr}
    (h : ∀ a ∈ attrs, (a.bytes order).length < 65536) :
    (parseRtattr order RTA_MAX
      ((attrs.map (Attr.bytes order)).flatMap Layout.padded))[RTA_DST]?.join = none ↔
        ∀ a ∈ attrs, a.type.toNat ≠ RTA_DST := by
  have hrecords : ∀ r ∈ attrs.map (Attr.bytes order), rtattr.IsRecord order r := by
    intro r hr
    obtain ⟨a, ha, rfl⟩ := List.mem_map.mp hr
    exact isRecord_attr (h a ha)
  rw [parseRtattr, Layout.records_flatMap hrecords,
    foldl_attr (by decide) _ (List.length_replicate ..), List.forall_mem_map]
  simp only [rtaType_bytes]
  exact and_iff_right (by decide)

theorem isDefaultGatewaypresent_bytes {n : Notice}
    (h : ∀ a ∈ n.change.route.attrs, (a.bytes order).length < 65536) :
    isDefaultGatewaypresent order (n.bytes order) = .success ↔ n.change.route.IsDefault := by
  have hheader : (n.bytes order).drop 16 = n.payload order := by
    rw [Notice.bytes, List.drop_left' (by simp)]
  have hflags := order.length_bytes 4 n.rtmFlags.toNat
  obtain ⟨f₁, f₂, f₃, f₄, hbytes⟩ := List.length_eq_four.mp hflags
  rw [isDefaultGatewaypresent, hheader, Notice.payload, hbytes]
  simp only [List.cons_append, List.nil_append, ne_eq, not_true_eq_false, if_false,
    parseRtattr_dst h, ← n.change.route.dst, and_self]
  by_cases hzero : n.change.route.dstLen = 0 <;> simp [Route.IsDefault, hzero]

/-! ## Reading a datagram -/

/-- What the monitor makes of a change. -/
def Change.received : Change → Monitor → Monitor
  | .add r, m =>
    if r.IsDefault ∧ m.gwV6Flag = false then { doToggleV6Status false m with gwV6Flag := true }
    else m
  | .del r, m =>
    if r.IsDefault ∧ m.gwV6Flag = true then { doToggleV6Status true m with gwV6Flag := false }
    else m

theorem dispatch_bytes {n : Notice}
    (h : ∀ a ∈ n.change.route.attrs, (a.bytes order).length < 65536) (m : Monitor) :
    dispatch order (n.bytes order) m = n.change.received m := by
  rw [dispatch, nlmsgType_bytes]
  cases hchange : n.change with
  | add r =>
    have hdefault := isDefaultGatewaypresent_bytes h
    rw [hchange] at hdefault
    simp only [Change.type, if_true, hdefault, Change.received, Change.route]
  | del r =>
    have hdefault := isDefaultGatewaypresent_bytes h
    rw [hchange] at hdefault
    have hne : ¬ RTM_DELROUTE = RTM_NEWROUTE := by decide
    simp only [Change.type, if_neg hne, if_true, hdefault, Change.received, Change.route]

theorem length_le_flatMap {rs : List (List UInt8)} {r : List UInt8} (h : r ∈ rs) :
    r.length ≤ (rs.flatMap Layout.padded).length := by
  have hpadded : r.length ≤ (Layout.padded r).length := by
    rw [Layout.length_padded]
    exact le_align _
  exact hpadded.trans (List.sublist_flatten_of_mem (List.mem_map_of_mem h)).length_le

/-- The attributes are in their message. -/
theorem length_attr_le (order : ByteOrder) {n : Notice} {a : Attr} (h : a ∈ n.change.route.attrs) :
    (a.bytes order).length ≤ (n.bytes order).length := by
  have hattr := length_le_flatMap (List.mem_map_of_mem (f := Attr.bytes order) h)
  simp only [Notice.bytes, Notice.payload, List.length_append]
  omega

theorem readAll_bytes {notices : List Notice}
    (h : ∀ n ∈ notices, (n.bytes order).length ≤ 8192) (m : Monitor) :
    readAll order (notices.map (Notice.bytes order)) .done m =
      some ((notices.map Notice.change).foldl (fun m c => c.received m) m) := by
  induction notices generalizing m with
  | nil => rfl
  | cons n notices ih =>
    rw [List.forall_mem_cons] at h
    have hattrs : ∀ a ∈ n.change.route.attrs, (a.bytes order).length < 65536 := by
      intro a ha
      have hle := length_attr_le order ha
      omega
    have hgoes : ¬ (n.change.type = NLMSG_DONE ∨ n.change.type = NLMSG_ERROR) := by
      cases n.change <;> simp [Change.type, RTM_NEWROUTE, RTM_DELROUTE, NLMSG_DONE, NLMSG_ERROR]
    rw [List.map_cons, readAll, nlmsgType_bytes, if_neg hgoes, dispatch_bytes hattrs, ih h.2,
      List.map_cons, List.foldl_cons]

/-- A datagram that fits its buffer is read as the changes that it is about. -/
theorem process_datagram {notices : List Notice} (h : (datagram order notices).length ≤ 8192)
    (m : Monitor) :
    processNetlinkRouteMonitorFd order (datagram order notices) m =
      some ((notices.map Notice.change).foldl (fun m c => c.received m) m) := by
  have hsize : ∀ n ∈ notices, (n.bytes order).length ≤ 8192 := fun n hn =>
    (length_le_flatMap (List.mem_map_of_mem hn)).trans h
  have hrecords : ∀ r ∈ notices.map (Notice.bytes order), nlmsg.IsRecord order r := by
    intro r hr
    obtain ⟨n, hn, rfl⟩ := List.mem_map.mp hr
    exact isRecord_notice (hsize n hn)
  rw [processNetlinkRouteMonitorFd, List.take_of_length_le h]
  dsimp only
  split
  · rename_i hempty
    obtain rfl : notices = [] := by
      cases notices with
      | nil => rfl
      | cons n notices =>
        have hpos := (hrecords _ (List.mem_map_of_mem (List.mem_cons_self ..))).1
        have hle := length_le_flatMap (List.mem_map_of_mem (f := Notice.bytes order)
          (List.mem_cons_self (a := n) (l := notices)))
        change _ ≤ (datagram order (n :: notices)).length at hle
        rw [hempty] at hle
        exact absurd (hpos.trans hle) (by decide)
    rfl
  · rw [datagram, Layout.records_flatMap hrecords]
    exact readAll_bytes hsize m

/-! ## Following the table -/

/-- The flag is set when there is a default route. -/
def Tracks (table : Table) (m : Monitor) : Prop := m.gwV6Flag = decide (HasDefault table)

theorem hasDefault_cons {r : Route} {table : Table} :
    HasDefault (r :: table) ↔ r.IsDefault ∨ HasDefault table := by
  rw [HasDefault, List.exists_mem_cons_iff]
  rfl

theorem hasDefault_erase {r : Route} (table : Table) (h : ¬ r.IsDefault) :
    HasDefault (table.erase r) ↔ HasDefault table := by
  constructor
  · rintro ⟨r', hr', hdefault⟩
    exact ⟨r', List.mem_of_mem_erase hr', hdefault⟩
  · rintro ⟨r', hr', hdefault⟩
    have hne : r' ≠ r := fun heq => h (heq ▸ hdefault)
    exact ⟨r', (List.mem_erase_of_ne hne).mpr hr', hdefault⟩

theorem Tracks.eq_true_iff {table : Table} {m : Monitor} (h : Tracks table m) :
    m.gwV6Flag = true ↔ HasDefault table := by
  rw [h, decide_eq_true_iff]

/-- A table that has a default route exactly when it had one before asks for no toggle. -/
theorem Tracks.kept {table table' : Table} {m : Monitor} (h : Tracks table m)
    (hsame : HasDefault table' ↔ HasDefault table) :
    Tracks table' m ∧ m.ipv6Toggle = m.ipv6Toggle ++ due table table' := by
  have hdue : due table table' = [] := by
    by_cases hd : HasDefault table <;> simp [due, hsame, hd]
  refine ⟨?_, by rw [hdue, List.append_nil]⟩
  rw [Tracks, h, decide_eq_decide]
  exact hsame.symm

theorem tracks_received {c : Change} {table : Table} {m : Monitor} (h : Tracks table m)
    (hvalid : c.Valid table) (hlast : LastOne c table) :
    Tracks (c.apply table) (c.received m) ∧
      (c.received m).ipv6Toggle = m.ipv6Toggle ++ due table (c.apply table) := by
  cases c with
  | add r =>
    by_cases hfirst : r.IsDefault ∧ m.gwV6Flag = false
    · have hnone : ¬ HasDefault table := by
        rw [← h.eq_true_iff, hfirst.2]
        exact Bool.false_ne_true
      have hcome : HasDefault (r :: table) := hasDefault_cons.mpr (.inl hfirst.1)
      rw [Change.received, if_pos hfirst, Change.apply, due, if_neg hnone, if_pos hcome]
      exact ⟨(decide_eq_true hcome).symm, rfl⟩
    · rw [Change.received, if_neg hfirst]
      refine h.kept (hasDefault_cons.trans (or_iff_right_of_imp fun hr => ?_))
      rw [← h.eq_true_iff, ← Bool.not_eq_false]
      exact fun hflag => hfirst ⟨hr, hflag⟩
  | del r =>
    by_cases hr : r.IsDefault
    · have hd : HasDefault table := ⟨r, hvalid, hr⟩
      have hgone : ¬ HasDefault (table.erase r) := hlast hr
      rw [Change.received, if_pos ⟨hr, h.eq_true_iff.mpr hd⟩, Change.apply, due, if_pos hd,
        if_neg hgone]
      exact ⟨(decide_eq_false hgone).symm, rfl⟩
    · rw [Change.received, if_neg fun hboth => hr hboth.1]
      exact h.kept (hasDefault_erase table hr)

theorem tracks_foldl {cs : List Change} {table : Table} {m : Monitor} (h : Tracks table m)
    (hvalid : Throughout Change.Valid cs table) (hlast : Throughout LastOne cs table) :
    Tracks (applyAll cs table) (cs.foldl (fun m c => c.received m) m) ∧
      (cs.foldl (fun m c => c.received m) m).ipv6Toggle = m.ipv6Toggle ++ dueAll cs table := by
  induction cs generalizing table m with
  | nil => exact ⟨h, (List.append_nil _).symm⟩
  | cons c cs ih =>
    obtain ⟨htracks, htoggle⟩ := tracks_received h hvalid.1 hlast.1
    obtain ⟨hrest, hrests⟩ := ih htracks hvalid.2 hlast.2
    refine ⟨hrest, ?_⟩
    rw [List.foldl_cons, hrests, htoggle, dueAll, List.append_assoc]

theorem throughout_append {P : Change → Table → Prop} {cs cs' : List Change} {table : Table} :
    Throughout P (cs ++ cs') table ↔
      Throughout P cs table ∧ Throughout P cs' (applyAll cs table) := by
  induction cs generalizing table with
  | nil => exact (and_iff_right trivial).symm
  | cons c cs ih =>
    rw [List.cons_append, Throughout, Throughout, ih, and_assoc]
    rfl

theorem follows_of_tracks {datagrams : List (List Notice)} {table : Table} {m : Monitor}
    (h : Tracks table m)
    (hvalid : Throughout Change.Valid (datagrams.flatten.map Notice.change) table)
    (hsize : ∀ notices ∈ datagrams, (datagram order notices).length ≤ 8192)
    (hlast : Throughout LastOne (datagrams.flatten.map Notice.change) table) :
    Follows order datagrams table m := by
  induction datagrams generalizing table m with
  | nil => trivial
  | cons notices rest ih =>
    rw [List.flatten_cons, List.map_append, throughout_append] at hvalid hlast
    obtain ⟨htracks, htoggle⟩ := tracks_foldl h hvalid.1 hlast.1
    rw [List.forall_mem_cons] at hsize
    exact ⟨_, process_datagram hsize.1 m, htoggle, ih htracks hvalid.2 hsize.2 hlast.2⟩

/-- When no default route is deleted while there is another one, the toggle follows the last default
route, however the messages are put into datagrams that fit the buffer. -/
theorem toggle_follows (order : ByteOrder) (datagrams : List (List Notice)) (table : Table)
    (hnone : ¬ HasDefault table)
    (hvalid : Throughout Change.Valid (datagrams.flatten.map Notice.change) table)
    (hsize : ∀ notices ∈ datagrams, (datagram order notices).length ≤ 8192)
    (hlast : Throughout LastOne (datagrams.flatten.map Notice.change) table) :
    Follows order datagrams table {} :=
  follows_of_tracks (decide_eq_false hnone).symm hvalid hsize hlast

/-! ## Examples -/

namespace Example

/-- A default route over a device; the gateway and the device are attributes. -/
def defaultRoute (gateway device : UInt8) : Route where
  dstLen := 0
  attrs := [⟨5, [0xfe, 0x80, 0, 0, 0, 0, 0, 0, 0, 0, 0, 0, 0, 0, 0, gateway]⟩,
    ⟨4, [device, 0, 0, 0]⟩]
  dst := by simp [RTA_DST]

def subnet : Route where
  dstLen := 64
  attrs := [⟨1, [0x20, 0x01, 0x0d, 0xb8, 0, 0, 0, 0, 0, 0, 0, 0, 0, 0, 0, 0]⟩]
  dst := by decide

def added (gateway device : UInt8) : List Notice :=
  [⟨.add (defaultRoute gateway device), 0, 0, 0, 0, 0, 2, 0, 1, 0⟩]

def deleted (gateway device : UInt8) : List Notice :=
  [⟨.del (defaultRoute gateway device), 0, 0, 0, 0, 0, 2, 0, 1, 0⟩]

def one : List (List Notice) :=
  [[⟨.add subnet, 0, 0, 0, 0, 0, 2, 0, 1, 0⟩, ⟨.add (defaultRoute 1 7), 0, 0, 0, 0, 0, 2, 0, 1, 0⟩],
    deleted 1 7]

def two : List (List Notice) := [added 1 7, added 2 8, deleted 1 7]

end Example

theorem toggle_follows_one : Follows .little Example.one [] {} :=
  toggle_follows .little Example.one [] (by decide) (by decide +kernel) (by decide +kernel)
    (by decide +kernel)

/-- One of two default routes is deleted, and the monitor takes it for the last one. -/
theorem toggle_with_default :
    Throughout Change.Valid (Example.two.flatten.map Notice.change) [] ∧
      ¬ Follows .little Example.two [] {} := by
  refine ⟨by decide +kernel, ?_⟩
  rintro ⟨m, hm, -, m', hm', -, m'', hm'', htoggle, -⟩
  have hfirst : processNetlinkRouteMonitorFd .little
      (datagram .little (Example.added 1 7)) {} = some ⟨false, true, ["FALSE"]⟩ := by
    decide +kernel
  obtain rfl := Option.some.inj (hm.symm.trans hfirst)
  have hsecond : processNetlinkRouteMonitorFd .little
      (datagram .little (Example.added 2 8)) ⟨false, true, ["FALSE"]⟩ =
        some ⟨false, true, ["FALSE"]⟩ := by
    decide +kernel
  obtain rfl := Option.some.inj (hm'.symm.trans hsecond)
  have hthird : processNetlinkRouteMonitorFd .little
      (datagram .little (Example.deleted 1 7)) ⟨false, true, ["FALSE"]⟩ =
        some ⟨false, false, ["FALSE", "TRUE"]⟩ := by
    decide +kernel
  obtain rfl := Option.some.inj (hm''.symm.trans hthird)
  exact absurd htoggle (by decide +kernel)

end RouteMonitor

end WanManager
