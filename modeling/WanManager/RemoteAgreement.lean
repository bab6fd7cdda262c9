import Mathlib.Logic.Function.Basic
import WanManager.Concurrency.Labelled
import WanManager.RemoteReports

/-! # A gateway and its remote devices

The gateway asks a device for its statuses and subscribes to them, and the device, which runs the same
program in the build with either data model, answers and publishes. The inter-device manager carries
the requests one way and the messages the other, each in order. Between any two steps the statuses
of the device may change, by a writer on the bus, by its own state machines or unseen, and others may
write to the entry the gateway keeps of it. -/

namespace WanManager
open Concurrency

namespace RemoteReports
open RemoteDevices Text

/-! ## The device -/

/-- The first interface of a device, with the counts of its subscribers and `PrevWanStatus`. -/
structure Peer where
  phy : PhyStatus := .down
  link : LinkStatus := .down
  wan : IfaceStatus := .disabled
  subs : Status → Nat := fun _ => 0
  prevWanStatus : Option IfaceStatus := none

def Peer.value (p : Peer) : Status → Value
  | .phy => .phy p.phy
  | .link => .link p.link
  | .wan => .wan p.wan

def Peer.setValue (p : Peer) : Value → Peer
  | .phy s => { p with phy := s }
  | .link s => { p with link := s }
  | .wan s => { p with wan := s }

/-- A name and a text for `WanMgr_Rbus_EventPublishHandler`. -/
abbrev Publication := List Char × List Char

/-- A status is published if somebody has subscribed; the latest build does so under both names. -/
def publish (build : Version) (st : Status) (name text : List Char) (p : Peer) : List Publication :=
  if p.subs st = 0 then []
  else match build with
    | .latest => [(name, text), (paramName .v1 st, text)]
    | .v1 => [(name, text)]

/-- `WanMgr_Interface_GetHandler`; the first interface of a device is a local one. -/
def interfaceGet (build : Version) (name : List Char) (p : Peer) : Option (List Char) :=
  (checked? build name).map fun st => enumToString build (p.value st)

/-- `WanMgr_Interface_SetHandler` -/
def interfaceSet (build : Version) (name text : List Char) (p : Peer) : Peer × List Publication :=
  match suffixed? build name with
  | some st => (p.setValue (stringToEnum st (text.take 19)), publish build st name (text.take 19) p)
  | none => (p, [])

/-- A state machine changes its status, and `WanMgr_Publish_WanStatus` follows. -/
def changeWanStatus (build : Version) (s : IfaceStatus) (p : Peer) : Peer × List Publication :=
  if some s = p.prevWanStatus then ({ p with wan := s }, [])
  else ({ p with wan := s, prevWanStatus := some s },
    publish build .wan (paramName build .wan) (enumToString build (.wan s)) p)

/-- `wanMgrDmlPublishEventHandler` -/
def subscribe (build : Version) (name : List Char) (p : Peer) : Peer :=
  match checked? build name with
  | some st => { p with subs := Function.update p.subs st (p.subs st + 1) }
  | none => p

def unsubscribe (build : Version) (name : List Char) (p : Peer) : Peer :=
  match checked? build name with
  | some st => { p with subs := Function.update p.subs st (p.subs st - 1) }
  | none => p

/-! ## The network -/

/-- A device, the requests on their way to it and the messages on their way to the gateway. -/
structure Device where
  peer : Peer := {}
  requests : List Request := []
  messages : List Message := []

/-- The interfaces of the gateway, and the devices. -/
structure Net (τ : Type) where
  table : List Iface
  device : τ → Device

inductive Act where
  /-- the gateway makes a request -/
  | ask (r : Request)
  /-- the device has a request; it may subscribe the gateway, and may answer -/
  | serve (r : Request) (subscribes : Bool) (answer : Option (List Char))
  | cancel (st : Status)
  /-- a status is written over the bus, and the gateway has subscribed or not -/
  | write (st : Status) (text : List Char) (published : Bool)
  /-- the state machine changes the status, which is published or not -/
  | change (s : IfaceStatus) (published : Bool)
  /-- another state machine publishes its status -/
  | other (s : IfaceStatus)
  /-- a status changes in another way -/
  | unseen (v : Value)
  /-- the gateway has the next message -/
  | deliver
  /-- the gateway is told whether the device is available -/
  | announce (available : Bool)
  /-- a status is written to the entry of the device -/
  | overwrite (v : Value)

section Net

variable {τ : Type} [DecidableEq τ] (psm : Psm) (mac : τ → String) (version : τ → Version)

/-- The inter-device manager passes on what is published under the names it has subscribed to. -/
def forward (t : τ) (ps : List Publication) : List Message :=
  (ps.filter fun p => (asked (version t)).contains p.1).map fun p => ⟨.event, mac t, p.1, p.2⟩

def Device.publishes (d : Device) (r : Peer × List Publication) (pass : List Publication → List Message) : Device :=
  { d with peer := r.1, messages := d.messages ++ pass r.2 }

/-- A step of one device; the entry of it in the table may change. -/
inductive DeviceStep (t : τ) : Act → List Iface → Device → List Iface → Device → Prop
  | ask {r ifaces d} (h : r ∈ configuration (version t)) :
    DeviceStep t (.ask r) ifaces d ifaces { d with requests := d.requests ++ [r] }
  | serve {r subscribes answer ifaces d rest} (hr : d.requests = r :: rest)
      (h : ∀ text, answer = some text → ∀ known, interfaceGet (version t) (r.paramName.getD "").toList d.peer =
        some known → text = known) :
    DeviceStep t (.serve r subscribes answer) ifaces d ifaces
      { peer := if subscribes then subscribe (version t) (r.paramName.getD "").toList d.peer else d.peer
        requests := rest
        messages := d.messages ++
          answer.toList.map fun text => ⟨.answer, mac t, (r.paramName.getD "").toList, text⟩ }
  | cancel {st ifaces d} : DeviceStep t (.cancel st) ifaces d ifaces
      { d with peer := unsubscribe (version t) (paramName (version t) st) d.peer }
  | write {st text ifaces d} : DeviceStep t (.write st text (0 < d.peer.subs st)) ifaces d ifaces
      (d.publishes (interfaceSet (version t) (paramName (version t) st) text d.peer) (forward mac version t))
  | change {s ifaces d} :
      DeviceStep t (.change s (0 < d.peer.subs .wan && some s != d.peer.prevWanStatus)) ifaces d ifaces
      (d.publishes (changeWanStatus (version t) s d.peer) (forward mac version t))
  | other {s ifaces d} : DeviceStep t (.other s) ifaces d ifaces
      { d with peer := { d.peer with prevWanStatus := some s } }
  | unseen {v ifaces d} : DeviceStep t (.unseen v) ifaces d ifaces { d with peer := d.peer.setValue v }
  | deliver {m ifaces d rest} (hm : d.messages = m :: rest) :
    DeviceStep t .deliver ifaces d (receive psm .gateway ifaces m) { d with messages := rest }
  | announce {available ifaces d} : DeviceStep t (.announce available) ifaces d
      (modifyRemote (mac t) (selectIface available) ifaces) d
  | overwrite {v ifaces d} : DeviceStep t (.overwrite v) ifaces d
      (modifyRemote (mac t) (·.setValue v) ifaces) d

/-- The gateway and its devices. -/
def net : Labelled (τ × Act) (Net τ) where
  step e s s' := ∃ d, DeviceStep psm mac version e.1 e.2 s.table (s.device e.1) s'.table d ∧
    s'.device = Function.update s.device e.1 d

end Net

/-! ## What the gateway can know -/

/-- After this the gateway is told of the status, or will be. -/
def renews (v : Version) : Act → Status → Bool
  | .serve r _ (some _), st => (r.paramName.getD "").toList == paramName v st
  | .write st' _ true, st => st == st' && heardAs v st' == some st
  | .change _ true, st => st == .wan
  | _, _ => false

/-- This may change the status, or what the gateway has of it. -/
def spoils (v : Version) : Act → Status → Bool
  | .write st' _ published, st => st == st' || (published && heardAs v st' == some st)
  | .change _ _, st => st == .wan
  | .unseen x, st => x.status == st
  | .announce false, st => st == .phy
  | .overwrite x, st => x.status == st
  | _, _ => false

/-- Of the acts, the last one first, one has told of the status and none has spoilt it since. -/
def fresh (v : Version) (st : Status) : List Act → Bool
  | [] => false
  | a :: as => renews v a st || (!spoils v a st && fresh v st as)

/-- A value is known, or what it is told as. -/
def Told (v : Version) (value known : Value) : Prop := known = value ∨ known = toldAs v value

/-- The acts of one device. -/
def acts {τ : Type} [DecidableEq τ] (t : τ) (es : List (τ × Act)) : List Act :=
  es.filterMap fun e => if e.1 = t then some e.2 else none

/-- What the gateway has of a device, after the acts. -/
structure Agrees (v : Version) (mac : String) (ifaces : List Iface) (d : Device) (as : List Act) : Prop where
  known : rowOf? ifaces mac ≠ none
  source : ∀ m ∈ d.messages, m.macSource = mac
  own : ∀ r ∈ d.requests, r ∈ configuration v
  told : ∀ st, fresh v st as = true →
    ∃ x, latest (·.brings st) (shown ifaces mac st) d.messages = some x ∧ Told v (d.peer.value st) x

/-! ## The messages of a device -/

theorem asked_of_configuration {v : Version} {r : Request} (h : r ∈ configuration v) :
    (r.paramName.getD "").toList ∈ asked v := by
  have hwanted {op : Operation} (h : r ∈ wanted v op (table v).length) :
      (r.paramName.getD "").toList ∈ asked v := by
    rw [wanted, List.take_length] at h
    obtain ⟨dm, hdm, rfl⟩ := List.mem_map.mp h
    exact List.mem_map.mpr ⟨dm, (List.mem_filter.mp hdm).1, rfl⟩
  rcases List.mem_append.mp h with h | h
  · exact hwanted h
  · exact hwanted h

section Messages

variable {v : Version} {mac : String} {ifaces ifaces' : List Iface} {d d' : Device} {a : Act} {as : List Act}
  {st st' : Status} {text : List Char} {p : Peer}

theorem brings_event (v : Version) (mac : String) (st st' : Status) (text : List Char) :
    Message.brings ⟨.event, mac, paramName v st, text⟩ st' =
      if heardAs v st = some st' then some (stringToEnum st' text) else none := by
  unfold Message.brings Message.takenFor
  rw [suffixed_paramName]

theorem brings_answer {name : List Char} (hname : name ∈ asked v) (mac : String) (st : Status) (text : List Char) :
    Message.brings ⟨.answer, mac, name, text⟩ st =
      if name = paramName v st then some (stringToEnum st text) else none := by
  unfold Message.brings Message.takenFor
  dsimp only
  rw [answered_asked hname]
  by_cases h : name = paramName v st
  · rw [if_pos h, if_pos (h ▸ meaning_paramName v st)]
  · rw [if_neg h, if_neg fun hst => h (eq_paramName_of_meaning hname hst)]

theorem value_setPeer (p : Peer) (x : Value) (st : Status) :
    (p.setValue x).value st = if x.status = st then x else p.value st := by
  cases x <;> cases st <;> rfl

theorem status_value (p : Peer) (st : Status) : (p.value st).status = st := by
  cases st <;> rfl

/-- What is sent for a status the gateway has subscribed to. -/
def sent (v : Version) (mac : String) (st : Status) (text : List Char) (subs : Nat) : List Message :=
  if subs = 0 then [] else [⟨.event, mac, paramName v st, text⟩]

theorem mem_sent {subs : Nat} {m : Message} (h : m ∈ sent v mac st text subs) :
    subs ≠ 0 ∧ m = ⟨.event, mac, paramName v st, text⟩ := by
  unfold sent at h
  split at h
  · cases h
  · next hsubs => exact ⟨hsubs, List.mem_singleton.mp h⟩

theorem forward_publish {τ : Type} (mac : τ → String) (version : τ → Version) (t : τ) (st : Status)
    (text : List Char) (p : Peer) :
    forward mac version t (publish (version t) st (paramName (version t) st) text p) =
      sent (version t) (mac t) st text (p.subs st) := by
  unfold forward publish sent
  split
  · rfl
  · cases version t with
    | latest => simp [paramName_asked, paramName_v1_not_asked]
    | v1 => simp [paramName_asked]

/-- A step that leaves the table alone. -/
theorem Agrees.speaks (h : Agrees v mac ifaces d as) (new : List Message)
    (hmessages : d'.messages = d.messages ++ new) (hsource : ∀ m ∈ new, m.macSource = mac)
    (hown : ∀ r ∈ d'.requests, r ∈ configuration v)
    (hrenews : ∀ st, renews v a st = true →
      ∃ x, (∀ held, latest (·.brings st) held new = some x) ∧ Told v (d'.peer.value st) x)
    (hkeeps : ∀ st, renews v a st = false → spoils v a st = false →
      d'.peer.value st = d.peer.value st ∧ ∀ m ∈ new, m.brings st = none) :
    Agrees v mac ifaces d' (a :: as) where
  known := h.known
  source := by
    intro m hm
    rw [hmessages, List.mem_append] at hm
    exact hm.elim (h.source m) (hsource m)
  own := hown
  told := by
    intro st hfresh
    rw [hmessages, latest_append]
    rw [fresh, Bool.or_eq_true, Bool.and_eq_true, Bool.not_eq_true'] at hfresh
    cases hr : renews v a st with
    | true =>
      obtain ⟨x, hx, htold⟩ := hrenews st hr
      exact ⟨x, hx _, htold⟩
    | false =>
      obtain ⟨hspoils, hbefore⟩ := hfresh.resolve_left (by simp [hr])
      obtain ⟨hvalue, hnone⟩ := hkeeps st hr hspoils
      obtain ⟨x, hx, htold⟩ := h.told st hbefore
      refine ⟨x, ?_, hvalue ▸ htold⟩
      rw [latest_of_none hnone, hx]

/-- An event is sent for a status that has changed. -/
theorem Agrees.sends (h : Agrees v mac ifaces d as) {subs : Nat}
    (hmessages : d'.messages = d.messages ++ sent v mac st' text subs) (hrequests : d'.requests = d.requests)
    (htold : Told v (d'.peer.value st') (stringToEnum st' text))
    (hothers : ∀ st, st ≠ st' → d'.peer.value st = d.peer.value st)
    (hrenews : ∀ st, renews v a st = true → st = st' ∧ subs ≠ 0 ∧ heardAs v st' = some st)
    (hkeeps : ∀ st, renews v a st = false → spoils v a st = false →
      st ≠ st' ∧ (subs = 0 ∨ heardAs v st' ≠ some st)) :
    Agrees v mac ifaces d' (a :: as) := by
  refine h.speaks (sent v mac st' text subs) hmessages (fun m hm => ?_) (hrequests ▸ h.own) (fun st hr => ?_)
    fun st hr hs => ?_
  · rw [(mem_sent hm).2]
  · obtain ⟨rfl, hsubs, hheard⟩ := hrenews st hr
    refine ⟨stringToEnum st text, fun held => ?_, htold⟩
    have hbrings : Message.brings ⟨.event, mac, paramName v st, text⟩ st = some (stringToEnum st text) := by
      rw [brings_event, if_pos hheard]
    rw [sent, if_neg hsubs, ← List.nil_append [_], latest_concat, hbrings, Option.some_or]
  · obtain ⟨hne, hnone⟩ := hkeeps st hr hs
    refine ⟨hothers st hne, fun m hm => ?_⟩
    obtain ⟨hsubs, rfl⟩ := mem_sent hm
    rw [brings_event, if_neg (hnone.resolve_left hsubs)]

end Messages

/-! ## One step -/

section Step

variable {τ : Type} {psm : Psm} {mac : τ → String} {version : τ → Version} {t : τ}
  {ifaces ifaces' : List Iface} {d d' : Device} {a : Act} {as : List Act}

theorem isOf_selectIface (available : Bool) (d : Iface) (mac : String) :
    (selectIface available d).isOf mac = d.isOf mac := by
  cases available <;> rfl

/-- A step writes to the entry of its own device only. -/
theorem DeviceStep.rowOf?_other {mac' : String} (h : DeviceStep psm mac version t a ifaces d ifaces' d')
    (hsource : ∀ m ∈ d.messages, m.macSource = mac t) (hmac : ¬ SameMac (mac t) mac') :
    rowOf? ifaces' mac' = rowOf? ifaces mac' := by
  cases h with
  | deliver hm =>
    rw [receive_gateway, hsource _ (hm ▸ List.mem_cons_self), rowOf?_modifyRemote (isOf_handle psm _), if_neg hmac]
  | announce => rw [rowOf?_modifyRemote (isOf_selectIface _), if_neg hmac]
  | overwrite => rw [rowOf?_modifyRemote (isOf_setValue _), if_neg hmac]
  | ask | serve | cancel | write | change | other | unseen => rfl

theorem Agrees.congr {v : Version} {mac' : String} (h : Agrees v mac' ifaces d as)
    (hentry : rowOf? ifaces' mac' = rowOf? ifaces mac') : Agrees v mac' ifaces' d as where
  known := hentry ▸ h.known
  source := h.source
  own := h.own
  told st hfresh := by
    rw [shown, hentry]
    exact h.told st hfresh

/-- Something is written to the entry of the device. -/
theorem Agrees.writes {v : Version} {mac' : String} (h : Agrees v mac' ifaces d as) {f : Iface → Iface}
    (hf : ∀ d mac, (f d).isOf mac = d.isOf mac) (hrenews : ∀ st, renews v a st = false)
    (hkeeps : ∀ st d, spoils v a st = false → (f d).value st = d.value st) :
    Agrees v mac' (modifyRemote mac' f ifaces) d (a :: as) where
  known := rowOf?_modifyRemote_ne_none hf h.known
  source := h.source
  own := h.own
  told st hfresh := by
    rw [fresh, hrenews, Bool.false_or, Bool.and_eq_true, Bool.not_eq_true'] at hfresh
    rw [shown, rowOf?_modifyRemote hf, if_pos (sameMac_self _), Option.map_map,
      show (fun e : Iface => e.value st) ∘ f = fun e => e.value st from funext fun e => hkeeps st e hfresh.1]
    exact h.told st hfresh.2

theorem Agrees.delivers {v : Version} {mac' : String} (h : Agrees v mac' ifaces d as) {m : Message}
    {rest : List Message} (hm : d.messages = m :: rest) :
    Agrees v mac' (receive psm .gateway ifaces m) { d with messages := rest } (.deliver :: as) where
  known := by
    rw [receive_gateway]
    exact rowOf?_modifyRemote_ne_none (isOf_handle psm m) h.known
  source m' hm' := h.source m' (hm ▸ List.mem_cons_of_mem _ hm')
  own := h.own
  told st hfresh := by
    obtain ⟨x, hx, htold⟩ := h.told st hfresh
    refine ⟨x, ?_, htold⟩
    have hmac : m.macSource = mac' := h.source m (hm ▸ List.mem_cons_self)
    have hknown : Known ifaces m := fun hnone => h.known (hmac ▸ hnone)
    have hnext : knows (receive psm .gateway ifaces m) (mac', st) = (m.brings st).or (knows ifaces (mac', st)) :=
      knows_receive hknown (hmac ▸ sameMac_self _)
    rw [← hx, hm, ← List.singleton_append, latest_append]
    refine congrArg (latest _ · rest) ?_
    exact hnext.trans (latest_concat (·.brings st) (shown ifaces mac' st) [] m).symm

/-- `wanMgrDmlPublishEventHandler` only counts. -/
theorem value_subscribe (build : Version) (name : List Char) (p : Peer) (st : Status) :
    (subscribe build name p).value st = p.value st := by
  unfold subscribe
  split
  · cases st <;> rfl
  · rfl

theorem value_unsubscribe (build : Version) (name : List Char) (p : Peer) (st : Status) :
    (unsubscribe build name p).value st = p.value st := by
  unfold unsubscribe
  split
  · cases st <;> rfl
  · rfl

/-- The device has a request. -/
theorem Agrees.serves (h : Agrees (version t) (mac t) ifaces d as) {r : Request} {subscribes : Bool}
    {answer : Option (List Char)} {rest : List Request} {p : Peer} (hr : d.requests = r :: rest)
    (hanswer : ∀ text, answer = some text → ∀ known,
      interfaceGet (version t) (r.paramName.getD "").toList d.peer = some known → text = known)
    (hvalue : ∀ st, p.value st = d.peer.value st) :
    Agrees (version t) (mac t) ifaces
      { peer := p
        requests := rest
        messages := d.messages ++
          answer.toList.map fun text => ⟨.answer, mac t, (r.paramName.getD "").toList, text⟩ }
      (.serve r subscribes answer :: as) := by
  have hasked := asked_of_configuration (h.own r (hr ▸ List.mem_cons_self))
  refine h.speaks _ rfl (fun m hm => ?_) (fun r' hr' => h.own r' (hr ▸ List.mem_cons_of_mem _ hr'))
    (fun st hst => ?_) fun st hst _ => ⟨hvalue st, fun m hm => ?_⟩
  · obtain ⟨text, -, rfl⟩ := List.mem_map.mp hm
    rfl
  · cases answer with
    | none => cases hst
    | some text =>
      have hname : (r.paramName.getD "").toList = paramName (version t) st := beq_iff_eq.mp hst
      have hget : interfaceGet (version t) (r.paramName.getD "").toList d.peer =
          some (enumToString (version t) (d.peer.value st)) := by
        rw [interfaceGet, hname, checked_own, Option.map_some]
      have htext := stringToEnum_enumToString (version t) (d.peer.value st)
      rw [status_value, ← hanswer text rfl _ hget] at htext
      refine ⟨stringToEnum st text, fun held => ?_, .inr (by rw [hvalue, htext])⟩
      have hbrings := brings_answer hasked (mac t) st text
      rw [if_pos hname] at hbrings
      rw [Option.toList_some, List.map_singleton, ← List.nil_append [_], latest_concat, hbrings, Option.some_or]
  · obtain ⟨text, htext, rfl⟩ := List.mem_map.mp hm
    rw [Option.mem_toList] at htext
    subst htext
    have hname : (r.paramName.getD "").toList ≠ paramName (version t) st := beq_eq_false_iff_ne.mp hst
    rw [brings_answer hasked, if_neg hname]

/-- Another component writes a status. -/
theorem Agrees.written (h : Agrees (version t) (mac t) ifaces d as) (st' : Status) (text : List Char) :
    Agrees (version t) (mac t) ifaces
      (d.publishes (interfaceSet (version t) (paramName (version t) st') text d.peer) (forward mac version t))
      (.write st' text (0 < d.peer.subs st') :: as) := by
  rw [interfaceSet, suffixed_own]
  dsimp only
  have hset := value_setPeer d.peer (stringToEnum st' (text.take 19))
  rw [status_stringToEnum] at hset
  refine h.sends (congrArg (d.messages ++ ·) (forward_publish mac version t st' (text.take 19) d.peer)) rfl
    (.inl ((hset st').trans (if_pos rfl)).symm) (fun st hne => (hset st).trans (if_neg hne.symm)) (fun st hr => ?_)
    fun st hr hs => ?_
  · cases hsubs : decide (0 < d.peer.subs st') with
    | false => rw [hsubs] at hr; cases hr
    | true =>
      rw [hsubs, renews, Bool.and_eq_true, beq_iff_eq, beq_iff_eq] at hr
      exact ⟨hr.1, Nat.ne_of_gt (of_decide_eq_true hsubs), hr.2⟩
  · rw [spoils, Bool.or_eq_false_iff, beq_eq_false_iff_ne, Bool.and_eq_false_iff, beq_eq_false_iff_ne] at hs
    exact ⟨hs.1, hs.2.imp_left fun hsubs => Nat.eq_zero_of_not_pos (of_decide_eq_false hsubs)⟩

/-- The state machine of the device changes its status. -/
theorem Agrees.changed (h : Agrees (version t) (mac t) ifaces d as) (s : IfaceStatus) :
    Agrees (version t) (mac t) ifaces
      (d.publishes (changeWanStatus (version t) s d.peer) (forward mac version t))
      (.change s (0 < d.peer.subs .wan && some s != d.peer.prevWanStatus) :: as) := by
  have hothers (prev : Option IfaceStatus) (st : Status) (hne : st ≠ .wan) :
      ({ d.peer with wan := s, prevWanStatus := prev } : Peer).value st = d.peer.value st := by
    cases st with
    | wan => exact absurd rfl hne
    | phy | link => rfl
  have hspoils {st : Status} {published : Bool} (hs : spoils (version t) (.change s published) st = false) :
      st ≠ .wan := beq_eq_false_iff_ne.mp hs
  unfold changeWanStatus
  split
  · next hsame =>
    refine h.speaks [] rfl (by simp) h.own (fun st hr => ?_) fun st _ hs => ⟨hothers _ st (hspoils hs), by simp⟩
    rw [hsame, bne_self_eq_false, Bool.and_false] at hr
    cases hr
  · next hchanged =>
    have hnew : (some s != d.peer.prevWanStatus) = true := bne_iff_ne.mpr hchanged
    have hheard : heardAs (version t) .wan = some .wan := by cases version t <;> rfl
    rw [hnew, Bool.and_true]
    refine h.sends (congrArg (d.messages ++ ·) (forward_publish mac version t .wan _ d.peer)) rfl ?_
      (hothers (some s)) (fun st hr => ?_) fun st hr hs => ?_
    · exact .inr (stringToEnum_enumToString (version t) (.wan s))
    · cases hsubs : decide (0 < d.peer.subs .wan) with
      | false => rw [hsubs] at hr; cases hr
      | true =>
        rw [hsubs] at hr
        obtain rfl : st = .wan := beq_iff_eq.mp hr
        exact ⟨rfl, Nat.ne_of_gt (of_decide_eq_true hsubs), hheard⟩
    · have hne := hspoils hs
      exact ⟨hne, .inr fun hst => hne (Option.some.inj (hheard.symm.trans hst)).symm⟩

theorem Agrees.step (h : Agrees (version t) (mac t) ifaces d as)
    (hstep : DeviceStep psm mac version t a ifaces d ifaces' d') :
    Agrees (version t) (mac t) ifaces' d' (a :: as) := by
  have hquiet {d' : Device} (hmessages : d'.messages = d.messages)
      (hown : ∀ r ∈ d'.requests, r ∈ configuration (version t))
      (hrenews : ∀ st, renews (version t) a st = false)
      (hkeeps : ∀ st, spoils (version t) a st = false → d'.peer.value st = d.peer.value st) :
      Agrees (version t) (mac t) ifaces d' (a :: as) := by
    refine h.speaks [] (by rw [hmessages, List.append_nil]) (by simp) hown (fun st hr => ?_) fun st _ hs => ?_
    · simp [hrenews] at hr
    · exact ⟨hkeeps st hs, by simp⟩
  cases hstep with
  | ask hr =>
    refine hquiet rfl (fun r' hr' => ?_) (fun _ => rfl) fun _ _ => rfl
    rcases List.mem_append.mp hr' with hr' | hr'
    · exact h.own r' hr'
    · rw [List.mem_singleton.mp hr']
      exact hr
  | @serve r subscribes _ _ _ _ hr hanswer =>
    refine h.serves hr hanswer fun st => ?_
    cases subscribes with
    | false => rfl
    | true => exact value_subscribe _ _ _ _
  | cancel => exact hquiet rfl h.own (fun _ => rfl) fun st _ => value_unsubscribe _ _ _ _
  | write => exact h.written _ _
  | change => exact h.changed _
  | other =>
    refine hquiet rfl h.own (fun _ => rfl) fun st _ => ?_
    cases st <;> rfl
  | @unseen v =>
    refine hquiet rfl h.own (fun _ => rfl) fun st hs => ?_
    have hne : v.status ≠ st := beq_eq_false_iff_ne.mp hs
    rw [value_setPeer, if_neg hne]
  | deliver hm => exact h.delivers hm
  | @announce available =>
    refine h.writes (isOf_selectIface available) (fun _ => rfl) fun st e hs => ?_
    cases available with
    | true => cases st <;> rfl
    | false =>
      have hne : st ≠ .phy := beq_eq_false_iff_ne.mp hs
      cases st with
      | phy => exact absurd rfl hne
      | link | wan => rfl
  | @overwrite v =>
    refine h.writes (isOf_setValue v) (fun _ => rfl) fun st e hs => ?_
    have hne : v.status ≠ st := beq_eq_false_iff_ne.mp hs
    rw [value_setValue, if_neg hne]

end Step

/-! ## All steps -/

section Run

variable {τ : Type} [DecidableEq τ] {psm : Psm} {mac : τ → String} {version : τ → Version} {s₀ s s' : Net τ}
  {es : List (τ × Act)} {t : τ} {st : Status} {a : Act} {ifaces : List Iface} {d : Device}

/-- Every device has its entry, and nothing is under way. -/
structure Installed (mac : τ → String) (s : Net τ) : Prop where
  known : ∀ t, rowOf? s.table (mac t) ≠ none
  idle : ∀ t, (s.device t).requests = [] ∧ (s.device t).messages = []

theorem Run.next (hrun : (net psm mac version).Run s₀ es s)
    (hstep : DeviceStep psm mac version t a s.table (s.device t) ifaces d) :
    (net psm mac version).Run s₀ ((t, a) :: es) ⟨ifaces, Function.update s.device t d⟩ :=
  .cons hrun ⟨d, hstep, rfl⟩

theorem acts_self (t : τ) (a : Act) (es : List (τ × Act)) : acts t ((t, a) :: es) = a :: acts t es := by
  simp [acts]

theorem acts_other {e : τ × Act} (h : e.1 ≠ t) (es : List (τ × Act)) : acts t (e :: es) = acts t es := by
  simp [acts, h]

theorem Run.agrees (hdistinct : ∀ t u, SameMac (mac t) (mac u) → t = u) (hstart : Installed mac s₀)
    (hrun : (net psm mac version).Run s₀ es s) (t : τ) :
    Agrees (version t) (mac t) s.table (s.device t) (acts t es) := by
  induction hrun generalizing t with
  | nil =>
    refine ⟨hstart.known t, ?_, ?_, nofun⟩
    · rw [(hstart.idle t).2]
      nofun
    · rw [(hstart.idle t).1]
      nofun
  | @cons s s' e es _ hstep ih =>
    obtain ⟨d, hstep, hdevice⟩ := hstep
    rw [hdevice]
    by_cases het : e.1 = t
    · subst het
      rw [Function.update_self, acts_self e.1 e.2]
      exact (ih e.1).step hstep
    · rw [Function.update_of_ne (Ne.symm het), acts_other het]
      exact (ih t).congr (hstep.rowOf?_other (ih e.1).source fun hmac => het (hdistinct _ _ hmac))

/-- When nothing of a device is under way, the gateway has the status the device has, provided that it
has been told since the status last changed; `STANDBY` and `VALID` it may have as what they are told as. -/
theorem remote_status_agrees (hdistinct : ∀ t u, SameMac (mac t) (mac u) → t = u) (hstart : Installed mac s₀)
    (hrun : (net psm mac version).Run s₀ es s) (hidle : (s.device t).messages = [])
    (hfresh : fresh (version t) st (acts t es) = true) :
    ∃ x, shown s.table (mac t) st = some x ∧ Told (version t) ((s.device t).peer.value st) x := by
  obtain ⟨x, hx, htold⟩ := (Run.agrees hdistinct hstart hrun t).told st hfresh
  rw [hidle] at hx
  exact ⟨x, hx, htold⟩

end Run

/-! ## A device of either data model -/

namespace Neighbours

def macs : Bool → String
  | true => "02:00:00:00:00:01"
  | false => "02:00:00:00:00:02"

def versions : Bool → Version
  | true => .latest
  | false => .v1

def start : Net Bool := ⟨[OneDevice.entry (macs true), OneDevice.entry (macs false)], fun _ => {}⟩

/-- A request for the status of the base interface. -/
def request (op : Operation) : Request :=
  RemoteDevices.request op ⟨some "Device.X_RDK_WanManager.Interface.1.BaseInterfaceStatus", true, true⟩

theorem distinct : ∀ t u, SameMac (macs t) (macs u) → t = u := by decide

theorem installed : Installed macs start where
  known := by decide
  idle _ := ⟨rfl, rfl⟩

theorem own (op : Operation) : request op ∈ configuration .latest := by
  cases op <;> decide +kernel

theorem answers {op : Operation} {p : Peer} {text : List Char} (h : text = enumToString .latest (p.value .phy)) :
    ∀ answer, some text = some answer → ∀ known,
      interfaceGet (versions true) ((request op).paramName.getD "").toList p = some known → answer = known := by
  intro answer hanswer known hknown
  have hget : interfaceGet .latest (paramName .latest .phy) p = some text := by
    rw [interfaceGet, checked_own, Option.map_some, h]
  have hname : ((request op).paramName.getD "").toList = paramName .latest .phy := by
    cases op <;> decide +kernel
  rw [hname] at hknown
  rw [← Option.some.inj hanswer]
  exact Option.some.inj (hget.symm.trans hknown)

end Neighbours

/-- The base interface comes up unseen, and the gateway asks for it. -/
theorem remote_status_agrees_up : ∃ es s, (net {} Neighbours.macs Neighbours.versions).Run Neighbours.start es s ∧
    (s.device true).peer.phy = .up ∧ ∃ x, shown s.table (Neighbours.macs true) .phy = some x ∧
      Told .latest ((s.device true).peer.value .phy) x := by
  have hup := Run.next (t := true) (.nil : (net {} Neighbours.macs Neighbours.versions).Run Neighbours.start [] _)
    (.unseen : DeviceStep {} Neighbours.macs Neighbours.versions true (.unseen (.phy .up)) _ _ _ _)
  have hasked := Run.next (t := true) hup (.ask (Neighbours.own .get))
  have hserved := Run.next (t := true) (a := .serve (Neighbours.request .get) false (some "Up".toList)) hasked
    (.serve rfl (Neighbours.answers rfl))
  have hdelivered := Run.next (t := true) hserved (.deliver rfl)
  refine ⟨_, _, hdelivered, rfl, ?_⟩
  exact remote_status_agrees Neighbours.distinct Neighbours.installed hdelivered rfl (by decide +kernel)

/-- A change between the answer and the subscription stays unknown, with nothing under way. -/
theorem change_between_missed : ∃ es s, (net {} Neighbours.macs Neighbours.versions).Run Neighbours.start es s ∧
    (∀ t, (s.device t).requests = [] ∧ (s.device t).messages = []) ∧ 0 < (s.device true).peer.subs .phy ∧
      (s.device true).peer.phy = .up ∧ shown s.table (Neighbours.macs true) .phy = some (.phy .down) := by
  have hasked := Run.next (t := true) (.nil : (net {} Neighbours.macs Neighbours.versions).Run Neighbours.start [] _)
    (.ask (Neighbours.own .get))
  have hanswered := Run.next (t := true) (a := .serve (Neighbours.request .get) false (some "Down".toList)) hasked
    (.serve rfl (Neighbours.answers rfl))
  have hdelivered := Run.next (t := true) hanswered (.deliver rfl)
  have hwritten := Run.next (t := true) (a := .write .phy "Up".toList _) hdelivered .write
  have hrequested := Run.next (t := true) hwritten (.ask (Neighbours.own .subs))
  have hsubscribed := Run.next (t := true) (a := .serve (Neighbours.request .subs) true none) hrequested
    (.serve rfl nofun)
  refine ⟨_, _, hsubscribed, ?_, ?_, ?_, ?_⟩
  · intro t
    cases t <;> decide +kernel
  · decide +kernel
  · decide +kernel
  · decide +kernel

end RemoteReports

end WanManager
