import WanManager.Concurrency.Latest
import WanManager.RemoteDevices
import WanManager.RemoteTable
import WanManager.ResolvConf
import WanManager.Text.CString

/-! # What remote devices report

The answers of a remote device and the events it publishes come in through the inter-device manager, each
with the address of the device, the name of a parameter and a text. `CPEInterface_AsyncMethodHandler`
takes the answers, `WanMgr_Rbus_EventReceiveHandler` the events; both look in the name for the suffixes
of parameters they know. The answers are searched for those of both data models, the events only for
those of the latest. -/

namespace WanManager
open Concurrency

namespace RemoteReports
open RemoteDevices Text
open ResolvConf (NetworkingMode)

/-! ## Texts -/

/-- `ENUM_PHY`, `ENUM_WAN_LINKSTATUS` and `ENUM_WAN_STATUS` -/
inductive Status where
  | phy | link | wan
  deriving DecidableEq, Repr

inductive Value where
  | phy (s : PhyStatus)
  | link (s : LinkStatus)
  | wan (s : IfaceStatus)
  deriving DecidableEq, Repr

def Value.status : Value → Status
  | .phy _ => .phy
  | .link _ => .link
  | .wan _ => .wan

/-- `WanMgr_StringToEnum` -/
def stringToEnum (st : Status) (s : List Char) : Value :=
  match st with
  | .phy => .phy <|
    if s = "Down".toList then .down
    else if s = "Initializing".toList then .initializing
    else if s = "Up".toList then .up
    else .unknown
  | .wan => .wan <|
    if s = "Initialising".toList then .initialising
    else if s = "Validating".toList then .validating
    else if s = "Up".toList then .up
    else if s = "Standby".toList then .standby
    else if s = "Invalid".toList then .invalid
    else .disabled
  | .link => .link <|
    if s = "Configuring".toList then .configuring
    else if s = "Up".toList then .up
    else .down

/-- `WanMgr_EnumToString`, in the build with the latest data model and in the one with the first. -/
def enumToString (build : Version) : Value → List Char
  | .phy .down => "Down".toList
  | .phy .initializing => "Initializing".toList
  | .phy .up => "Up".toList
  | .phy .unknown => "Unknown".toList
  | .wan .initialising => "Initialising".toList
  | .wan .validating => "Validating".toList
  | .wan .up => "Up".toList
  | .wan .standby => match build with
    | .latest => "Up".toList
    | .v1 => "Standby".toList
  | .wan .valid => "Standby".toList
  | .wan .invalid => "Invalid".toList
  | .wan .disabled => "Disabled".toList
  | .link .configuring => "Configuring".toList
  | .link .up => "Up".toList
  | .link .down => "Down".toList

/-- What a value is taken for once it has been told. -/
def toldAs (build : Version) : Value → Value
  | .wan .standby => match build with
    | .latest => .wan .up
    | .v1 => .wan .standby
  | .wan .valid => .wan .standby
  | v => v

@[simp] theorem status_stringToEnum (st : Status) (s : List Char) : (stringToEnum st s).status = st := by
  cases st <;> rfl

/-- Only `STANDBY` and `VALID` are not told as what they are. -/
theorem stringToEnum_enumToString (build : Version) (v : Value) :
    stringToEnum v.status (enumToString build v) = toldAs build v := by
  rcases v with s | s | s
  · cases s <;> rfl
  · cases s <;> rfl
  · cases s <;> cases build <;> rfl

/-! ## Names -/

/-- `WANMGR_INFACE_PHY_STATUS_SUFFIX` and its like, of both data models. -/
def suffix : Version → Status → List Char
  | .latest, .phy => ".BaseInterfaceStatus".toList
  | .latest, .link => ".VlanStatus".toList
  | .latest, .wan => ".Status".toList
  | .v1, .phy => ".Phy.Status".toList
  | .v1, .link => ".Wan.LinkStatus".toList
  | .v1, .wan => ".Wan.Status".toList

/-- `WANMGR_INFACE_ALIASNAME_SUFFIX` -/
def aliasSuffix : Version → List Char
  | .latest => ".Alias".toList
  | .v1 => ".AliasName".toList

def has (piece name : List Char) : Bool := (Text.strstr piece name).isSome

/-- `WANMGR_PHY_STATUS_CHECK` and its like. -/
def check (build : Version) (st : Status) (name : List Char) : Bool :=
  has (suffix build st) name || (build == .latest && has (suffix .v1 st) name)

/-- The handlers try the statuses in this order. -/
def firstOf (test : Status → Bool) : Option Status :=
  if test .phy then some .phy
  else if test .link then some .link
  else if test .wan then some .wan
  else none

/-- The status a name stands for where answers are given and taken. -/
def checked? (build : Version) (name : List Char) : Option Status := firstOf (check build · name)

/-- The status a name stands for where values are written and events are received. -/
def suffixed? (build : Version) (name : List Char) : Option Status :=
  firstOf fun st => has (suffix build st) name

/-- The entry of the list of a version that is about a status. -/
def position : Status → Nat
  | .phy => 2
  | .wan => 3
  | .link => 4

/-- The parameter of a device with a status. -/
def paramName (v : Version) (st : Status) : List Char :=
  ((((table v)[position st]?).bind (·.name)).getD "").toList

/-- The parameters a device is asked for. -/
def asked (v : Version) : List (List Char) := (table v).map fun dm => (dm.name.getD "").toList

/-- Those with the names of the device. -/
def texts (v : Version) : List (List Char) := ((table v).take 2).map fun dm => (dm.name.getD "").toList

/-- The status a parameter has, in either data model. -/
def meaning (name : List Char) : Option Status :=
  firstOf fun st => name == paramName .latest st || name == paramName .v1 st

/-- The status an answer is taken for. -/
def answered? (name : List Char) : Option Status :=
  if has ".Name".toList name || has ".DisplayName".toList name ||
    (has (aliasSuffix .latest) name || has (aliasSuffix .v1) name) then none
  else checked? .latest name

/-- What an event for a parameter is taken for. -/
def heardAs : Version → Status → Option Status
  | .v1, .phy => some .wan
  | .v1, .link => none
  | _, st => some st

/-! ## The parameters of a device -/

/-- What the handlers find in a name. -/
structure Reading where
  meant : Option Status
  answered : Option Status
  checkedLatest : Option Status
  checkedV1 : Option Status
  suffixedLatest : Option Status
  suffixedV1 : Option Status
  deriving DecidableEq

def reading (name : List Char) : Reading :=
  ⟨meaning name, answered? name, checked? .latest name, checked? .v1 name, suffixed? .latest name,
    suffixed? .v1 name⟩

/-- The reading of a parameter with a status. -/
def readAs (v : Version) (st : Status) : Reading :=
  let own := if v = .v1 then some st else none
  ⟨some st, some st, some st, own, heardAs v st, own⟩

-- all that is ever computed of the names, in one evaluation
theorem names_read : ∀ v ∈ [Version.latest, .v1],
    (∀ st ∈ [Status.phy, .link, .wan], reading (paramName v st) = readAs v st) ∧
      ∀ name ∈ texts v, reading name = ⟨none, none, none, none, none, none⟩ := by
  decide +kernel

theorem reading_paramName (v : Version) (st : Status) : reading (paramName v st) = readAs v st :=
  (names_read v (by cases v <;> simp)).1 st (by cases st <;> simp)

theorem meaning_paramName (v : Version) (st : Status) : meaning (paramName v st) = some st :=
  congrArg Reading.meant (reading_paramName v st)

theorem checked_own (v : Version) (st : Status) : checked? v (paramName v st) = some st := by
  cases v with
  | latest => exact congrArg Reading.checkedLatest (reading_paramName .latest st)
  | v1 => exact congrArg Reading.checkedV1 (reading_paramName .v1 st)

theorem suffixed_own (v : Version) (st : Status) : suffixed? v (paramName v st) = some st := by
  cases v with
  | latest => exact congrArg Reading.suffixedLatest (reading_paramName .latest st)
  | v1 => exact congrArg Reading.suffixedV1 (reading_paramName .v1 st)

theorem suffixed_paramName (v : Version) (st : Status) : suffixed? .latest (paramName v st) = heardAs v st :=
  congrArg Reading.suffixedLatest (reading_paramName v st)

theorem paramName_inj {v : Version} {st st' : Status} : paramName v st = paramName v st' ↔ st = st' := by
  refine ⟨fun h => ?_, fun h => h ▸ rfl⟩
  have hmeant := meaning_paramName v st
  rw [h, meaning_paramName, Option.some.injEq] at hmeant
  exact hmeant.symm

theorem asked_eq (v : Version) :
    asked v = texts v ++ [paramName v .phy, paramName v .wan, paramName v .link] := by
  cases v <;> rfl

theorem paramName_asked (v : Version) (st : Status) : paramName v st ∈ asked v := by
  rw [asked_eq]
  cases st <;> simp

theorem asked_cases {v : Version} {name : List Char} (h : name ∈ asked v) :
    (∃ st, name = paramName v st) ∨ reading name = ⟨none, none, none, none, none, none⟩ := by
  rw [asked_eq, List.mem_append] at h
  rcases h with h | h
  · exact .inr ((names_read v (by cases v <;> simp)).2 name h)
  · simp only [List.mem_cons, List.not_mem_nil, or_false] at h
    rcases h with h | h | h
    · exact .inl ⟨_, h⟩
    · exact .inl ⟨_, h⟩
    · exact .inl ⟨_, h⟩

theorem answered_asked {v : Version} {name : List Char} (h : name ∈ asked v) :
    answered? name = meaning name := by
  rcases asked_cases h with ⟨st, rfl⟩ | h
  · rw [meaning_paramName]
    exact congrArg Reading.answered (reading_paramName v st)
  · rw [show meaning name = none from congrArg Reading.meant h]
    exact congrArg Reading.answered h

theorem suffixed_asked {v : Version} {name : List Char} (h : name ∈ asked v)
    (hheard : ∀ st, name = paramName v st → heardAs v st = some st) :
    suffixed? .latest name = meaning name := by
  rcases asked_cases h with ⟨st, rfl⟩ | h
  · rw [suffixed_paramName, meaning_paramName, hheard st rfl]
  · rw [show meaning name = none from congrArg Reading.meant h]
    exact congrArg Reading.suffixedLatest h

theorem eq_paramName_of_meaning {v : Version} {name : List Char} {st : Status} (h : name ∈ asked v)
    (hst : meaning name = some st) : name = paramName v st := by
  rcases asked_cases h with ⟨st', rfl⟩ | h
  · rw [meaning_paramName, Option.some.injEq] at hst
    rw [hst]
  · rw [show meaning name = none from congrArg Reading.meant h] at hst
    cases hst

theorem paramName_v1_not_asked (st : Status) : paramName .v1 st ∉ asked .latest := by
  intro h
  have hv1 : suffixed? .v1 (paramName .v1 st) = some st := suffixed_own .v1 st
  rcases asked_cases h with ⟨st', hst'⟩ | h
  · rw [hst', show suffixed? .v1 (paramName .latest st') = none from
      congrArg Reading.suffixedV1 (reading_paramName .latest st')] at hv1
    cases hv1
  · rw [show suffixed? .v1 (paramName .v1 st) = none from congrArg Reading.suffixedV1 h] at hv1
    cases hv1

/-! ## The handlers -/

/-- The part of `DML_VIRTUAL_IFACE` that the handlers write. -/
structure VirtIf where
  name : CStr 64 := .snprintf []
  aliasName : CStr 64 := .snprintf []
  vlanStatus : LinkStatus := .down
  remoteStatus : IfaceStatus := .disabled
  dhcpv4Iface : CStr 128
  deriving DecidableEq

/-- The part of `DML_WAN_IFACE` that the handlers look at or write, with its first virtual interface. -/
structure Iface where
  name : CStr 64 := .snprintf []
  displayName : CStr 64 := .snprintf []
  aliasName : CStr 64 := .snprintf []
  remoteCpeMac : String := ""
  baseInterfaceStatus : PhyStatus := .down
  selectionEnable : Bool := true
  ifaceType : IfaceType := .local_
  virtIf : VirtIf
  deriving DecidableEq

def Iface.value (d : Iface) : Status → Value
  | .phy => .phy d.baseInterfaceStatus
  | .link => .link d.virtIf.vlanStatus
  | .wan => .wan d.virtIf.remoteStatus

def Iface.setValue (d : Iface) : Value → Iface
  | .phy s => { d with baseInterfaceStatus := s }
  | .link s => { d with virtIf := { d.virtIf with vlanStatus := s } }
  | .wan s => { d with virtIf := { d.virtIf with remoteStatus := s } }

/-- The entry is that of the remote device with the address. -/
def Iface.isOf (mac : String) (d : Iface) : Bool :=
  DataLayer.strncasecmp d.remoteCpeMac mac 128 && d.ifaceType == .remote

/-- `PSM_MESH_WAN_IFNAME` and `PSM_MESH_WAN_DHCPv4`, where PSM has them. -/
structure Psm where
  meshWanIfname : Option (List Char) := none
  meshWanDhcpv4 : Option (List Char) := none

/-- `REMOTE_INTERFACE_NAME` -/
def remoteInterfaceName : List Char := "brRWAN".toList

/-- `WanMgr_getRemoteWanParamsFromPSM` -/
def getRemoteWanParams (psm : Psm) (v : VirtIf) : VirtIf :=
  { v with
    name := v.name.refill (psm.meshWanIfname.getD remoteInterfaceName)
    dhcpv4Iface := match psm.meshWanDhcpv4 with
      | some ifname => v.dhcpv4Iface.refill ifname
      | none => v.dhcpv4Iface }

/-- A link that is up has its names read from PSM. -/
def readNames (psm : Psm) (d : Iface) : Iface :=
  if d.virtIf.vlanStatus = .up then { d with virtIf := getRemoteWanParams psm d.virtIf } else d

/-- A status is taken over. -/
def takeStatus (psm : Psm) (st : Status) (text : List Char) (d : Iface) : Iface :=
  if st = .link then readNames psm (d.setValue (stringToEnum st text))
  else d.setValue (stringToEnum st text)

/-- The names of remote devices are told apart. -/
def remoteText (text : List Char) : List Char := "REMOTE_".toList ++ text

/-- A new alias is also that of the virtual interface. -/
def takeAlias (text : List Char) (d : Iface) : Iface :=
  if d.aliasName.refill (remoteText text) = d.aliasName then d
  else { d with
    aliasName := d.aliasName.refill (remoteText text)
    virtIf := { d.virtIf with aliasName := d.virtIf.aliasName.refill (remoteText text) } }

/-- The part of `CPEInterface_AsyncMethodHandler` under the lock of the interface. -/
def takeAnswer (psm : Psm) (name text : List Char) (d : Iface) : Iface :=
  if has ".Name".toList name then { d with name := d.name.refill text }
  else if has ".DisplayName".toList name then
    { d with displayName := d.displayName.refill (remoteText text) }
  else if has (aliasSuffix .latest) name || has (aliasSuffix .v1) name then takeAlias text d
  else match checked? .latest name with
    | some st => takeStatus psm st text d
    | none => d

/-- The part of `WanMgr_Rbus_EventReceiveHandler` under the lock of the interface. -/
def takeEvent (psm : Psm) (name text : List Char) (d : Iface) : Iface :=
  match suffixed? .latest name with
  | some st => takeStatus psm st text d
  | none => d

inductive Kind where
  | answer | event
  deriving DecidableEq, Repr

/-- What comes in from the inter-device manager. -/
structure Message where
  kind : Kind
  macSource : String
  paramName : List Char
  paramValue : List Char
  deriving DecidableEq, Repr

/-- `WanMgr_Remote_IfaceData_index` -/
def remoteIndex? (mac : String) (t : List Iface) : Option Nat := t.findIdx? (·.isOf mac)

/-- The entry of a device is looked for and changed. -/
def modifyRemote (mac : String) (f : Iface → Iface) (t : List Iface) : List Iface :=
  match remoteIndex? mac t with
  | some i => t.modify i f
  | none => t

/-- A handler takes a message; events are only taken in `GATEWAY_MODE`. -/
def receive (psm : Psm) (mode : NetworkingMode) (t : List Iface) (m : Message) : List Iface :=
  match m.kind with
  | .answer => modifyRemote m.macSource (takeAnswer psm m.paramName m.paramValue) t
  | .event =>
    if mode = .gateway then modifyRemote m.macSource (takeEvent psm m.paramName m.paramValue) t else t

/-- The last section of `WanMgr_WanRemoteIfaceConfigure_thread` under the mutex. -/
def selectIface (available : Bool) (d : Iface) : Iface :=
  if available then { d with selectionEnable := true }
  else { d with selectionEnable := false, baseInterfaceStatus := .down }

/-! ## The entries -/

variable {psm : Psm} {t : List Iface} {d : Iface} {m : Message} {mac : String} {st : Status}

theorem value_setValue (d : Iface) (v : Value) (st : Status) :
    (d.setValue v).value st = if v.status = st then v else d.value st := by
  cases v <;> cases st <;> rfl

theorem isOf_setValue (v : Value) (d : Iface) (mac : String) : (d.setValue v).isOf mac = d.isOf mac := by
  cases v <;> rfl

theorem value_readNames (psm : Psm) (d : Iface) (st : Status) : (readNames psm d).value st = d.value st := by
  unfold readNames
  split
  · cases st <;> rfl
  · rfl

theorem value_takeStatus (psm : Psm) (st st' : Status) (text : List Char) (d : Iface) :
    (takeStatus psm st text d).value st' = if st = st' then stringToEnum st text else d.value st' := by
  have hset := value_setValue d (stringToEnum st text) st'
  rw [status_stringToEnum] at hset
  unfold takeStatus
  split
  · rw [value_readNames, hset]
  · exact hset

theorem isOf_takeStatus (psm : Psm) (st : Status) (text : List Char) (d : Iface) (mac : String) :
    (takeStatus psm st text d).isOf mac = d.isOf mac := by
  rw [← isOf_setValue (stringToEnum st text) d mac]
  unfold takeStatus readNames
  split
  · split
    · rfl
    · rfl
  · rfl

theorem value_takeAlias (text : List Char) (d : Iface) (st : Status) :
    (takeAlias text d).value st = d.value st := by
  unfold takeAlias
  split
  · rfl
  · cases st <;> rfl

theorem isOf_takeAlias (text : List Char) (d : Iface) (mac : String) :
    (takeAlias text d).isOf mac = d.isOf mac := by
  unfold takeAlias
  split
  · rfl
  · rfl

/-- The status a message is taken for. -/
def Message.takenFor (m : Message) : Option Status :=
  match m.kind with
  | .answer => answered? m.paramName
  | .event => suffixed? .latest m.paramName

/-- What its handler does to the entry of the device. -/
def Message.handle (psm : Psm) (m : Message) : Iface → Iface :=
  match m.kind with
  | .answer => takeAnswer psm m.paramName m.paramValue
  | .event => takeEvent psm m.paramName m.paramValue

/-- What a message makes of a status. -/
def Message.brings (m : Message) (st : Status) : Option Value :=
  if m.takenFor = some st then some (stringToEnum st m.paramValue) else none

theorem value_status (psm : Psm) {o : Option Status} {text : List Char} {d d' : Iface}
    (hsome : ∀ st, o = some st → d' = takeStatus psm st text d)
    (hnone : o = none → ∀ st, d'.value st = d.value st) (st : Status) :
    d'.value st = (if o = some st then some (stringToEnum st text) else none).getD (d.value st) := by
  cases o with
  | none => exact hnone rfl st
  | some st' =>
    rw [hsome st' rfl, value_takeStatus]
    by_cases h : st' = st
    · subst h
      simp
    · simp [h]

theorem value_handle (psm : Psm) (m : Message) (d : Iface) (st : Status) :
    (m.handle psm d).value st = (m.brings st).getD (d.value st) := by
  unfold Message.handle Message.brings Message.takenFor
  cases m.kind with
  | answer =>
    dsimp only
    unfold takeAnswer answered?
    by_cases hname : has ".Name".toList m.paramName = true
    · simp only [hname, if_true, Bool.true_or]
      cases st <;> rfl
    by_cases hdisplay : has ".DisplayName".toList m.paramName = true
    · simp only [hname, hdisplay, if_true, Bool.or_true, Bool.true_or]
      cases st <;> rfl
    by_cases halias : (has (aliasSuffix .latest) m.paramName || has (aliasSuffix .v1) m.paramName) = true
    · simp only [hname, hdisplay, halias, if_true, Bool.or_true]
      exact value_takeAlias _ _ _
    · simp only [hname, hdisplay, halias, Bool.or_self]
      refine value_status psm (fun st' h => ?_) (fun h st' => ?_) st
      · rw [if_neg (by simp)] at h
        simp [h]
      · rw [if_neg (by simp)] at h
        simp [h]
  | event =>
    dsimp only
    unfold takeEvent
    refine value_status psm (fun st' h => ?_) (fun h st' => ?_) st
    · rw [h]
    · rw [h]

theorem isOf_handle (psm : Psm) (m : Message) (d : Iface) (mac : String) :
    (m.handle psm d).isOf mac = d.isOf mac := by
  unfold Message.handle
  cases m.kind with
  | answer =>
    dsimp only
    unfold takeAnswer
    split
    · rfl
    split
    · rfl
    split
    · exact isOf_takeAlias _ _ _
    split
    · exact isOf_takeStatus _ _ _ _ _
    · rfl
  | event =>
    dsimp only
    unfold takeEvent
    split
    · exact isOf_takeStatus _ _ _ _ _
    · rfl

/-! ## The table -/

/-- The two addresses are those of one device. -/
def SameMac (mac mac' : String) : Prop := DataLayer.strncasecmp mac mac' 128 = true

instance (mac mac' : String) : Decidable (SameMac mac mac') := inferInstanceAs (Decidable (_ = true))

theorem sameMac_self (mac : String) : SameMac mac mac := beq_self_eq_true _

theorem isOf_of_sameMac {mac' : String} (h : SameMac mac mac') (d : Iface) : d.isOf mac = d.isOf mac' := by
  unfold SameMac DataLayer.strncasecmp at h
  rw [beq_iff_eq] at h
  unfold Iface.isOf DataLayer.strncasecmp
  rw [h]

theorem sameMac_of_isOf {mac' : String} (h : d.isOf mac = true) (h' : d.isOf mac' = true) : SameMac mac mac' := by
  unfold Iface.isOf DataLayer.strncasecmp at h h'
  rw [Bool.and_eq_true, beq_iff_eq] at h h'
  unfold SameMac DataLayer.strncasecmp
  rw [beq_iff_eq, ← h.1, h'.1]

/-- The entry of a device. -/
def rowOf? (t : List Iface) (mac : String) : Option Iface := t.find? (·.isOf mac)

/-- What is known of a status of a device. -/
def shown (t : List Iface) (mac : String) (st : Status) : Option Value := (rowOf? t mac).map (·.value st)

theorem shown_congr {mac' : String} (h : SameMac mac mac') (t : List Iface) (st : Status) :
    shown t mac st = shown t mac' st := by
  unfold shown rowOf?
  rw [funext (isOf_of_sameMac h)]

theorem modifyRemote_cons (mac : String) (f : Iface → Iface) (d : Iface) (t : List Iface) :
    modifyRemote mac f (d :: t) = if d.isOf mac then f d :: t else d :: modifyRemote mac f t := by
  unfold modifyRemote remoteIndex?
  rw [List.findIdx?_cons]
  cases hd : d.isOf mac with
  | true => rfl
  | false => cases t.findIdx? (·.isOf mac) <;> rfl

theorem rowOf?_modifyRemote {f : Iface → Iface} (hf : ∀ d mac, (f d).isOf mac = d.isOf mac) (mac mac' : String)
    (t : List Iface) : rowOf? (modifyRemote mac f t) mac' =
      if SameMac mac mac' then (rowOf? t mac').map f else rowOf? t mac' := by
  induction t with
  | nil => split <;> rfl
  | cons d t ih =>
    rw [modifyRemote_cons]
    unfold rowOf? at ih ⊢
    by_cases hmac : SameMac mac mac'
    · have hsame := isOf_of_sameMac hmac d
      rw [if_pos hmac] at ih ⊢
      cases hd : d.isOf mac' with
      | true => simp [hsame, hd, hf]
      | false => simp [hsame, hd, ih]
    · rw [if_neg hmac] at ih ⊢
      cases hd : d.isOf mac with
      | true =>
        have hother : d.isOf mac' = false := Bool.eq_false_iff.mpr fun h => hmac (sameMac_of_isOf hd h)
        simp [hother, hf]
      | false =>
        cases hd' : d.isOf mac' with
        | true => simp [hd']
        | false => simp [hd', ih]

/-- An entry stays an entry. -/
theorem rowOf?_modifyRemote_ne_none {f : Iface → Iface} (hf : ∀ d mac, (f d).isOf mac = d.isOf mac) {mac' : String}
    (h : rowOf? t mac' ≠ none) : rowOf? (modifyRemote mac f t) mac' ≠ none := by
  rw [rowOf?_modifyRemote hf]
  split
  · rw [Ne, Option.map_eq_none_iff]
    exact h
  · exact h

theorem receive_gateway (psm : Psm) (t : List Iface) (m : Message) :
    receive psm .gateway t m = modifyRemote m.macSource (m.handle psm) t := by
  unfold receive Message.handle
  cases m.kind <;> rfl

/-- A message tells of its own device only. -/
theorem shown_receive (psm : Psm) (t : List Iface) (m : Message) (mac : String) (st : Status) :
    shown (receive psm .gateway t m) mac st =
      if SameMac m.macSource mac then (shown t mac st).map (m.brings st).getD else shown t mac st := by
  unfold shown
  rw [receive_gateway, rowOf?_modifyRemote (isOf_handle psm m)]
  split
  · rw [Option.map_map, Option.map_map]
    exact congrArg (Option.map · _) (funext fun d => value_handle psm m d st)
  · rfl

/-! ## The latest of what a device reported -/

/-- What a message says about a status of a device. -/
def Message.tells (m : Message) (i : String × Status) : Option Value :=
  if SameMac m.macSource i.1 ∧ meaning m.paramName = some i.2 then some (stringToEnum i.2 m.paramValue) else none

/-- The parameter is one that devices are asked for. -/
def Message.Asked (m : Message) : Prop := ∃ v, m.paramName ∈ asked v

def Known (t : List Iface) (m : Message) : Prop := rowOf? t m.macSource ≠ none

/-- The event has a name that the handler of events does not know: what it says of the link is lost, and
what it says of the base interface is taken for the status of the WAN, unless all that is as it was. -/
def Misread (t : List Iface) (m : Message) : Prop :=
  m.kind = .event ∧
    ((m.paramName = paramName .v1 .phy ∧
        ¬ (shown t m.macSource .phy = some (stringToEnum .phy m.paramValue) ∧
          shown t m.macSource .wan = some (stringToEnum .wan m.paramValue))) ∨
      (m.paramName = paramName .v1 .link ∧
        shown t m.macSource .link ≠ some (stringToEnum .link m.paramValue)))

theorem Known.shown (h : Known t m) (st : Status) : ∃ v, shown t m.macSource st = some v := by
  obtain ⟨d, hd⟩ := Option.ne_none_iff_exists'.mp h
  exact ⟨d.value st, by rw [RemoteReports.shown, hd, Option.map_some]⟩

/-- What is known, by device and status. -/
def knows (t : List Iface) (i : String × Status) : Option Value := shown t i.1 i.2

theorem tells_self (m : Message) (st : Status) : m.tells (m.macSource, st) =
    if meaning m.paramName = some st then some (stringToEnum st m.paramValue) else none := by
  unfold Message.tells
  simp only [sameMac_self, true_and]

theorem knows_receive (h : Known t m) {i : String × Status} (hmac : SameMac m.macSource i.1) :
    knows (receive psm .gateway t m) i = (m.brings i.2).or (knows t i) := by
  obtain ⟨v, hv⟩ := h.shown i.2
  rw [shown_congr hmac] at hv
  rw [knows, shown_receive, if_pos hmac, knows, hv]
  cases m.brings i.2 <;> rfl

/-- A message renews what is known exactly if it is taken for what it says, as far as that is news. -/
theorem renews_iff_statuses (h : Known t m) : Renews (receive psm .gateway) knows Message.tells t m ↔
    ∀ st, (m.brings st).or (shown t m.macSource st) =
      (m.tells (m.macSource, st)).or (shown t m.macSource st) := by
  constructor
  · intro hrenews st
    exact (knows_receive h (sameMac_self m.macSource)).symm.trans (hrenews (m.macSource, st))
  · intro hall i
    by_cases hmac : SameMac m.macSource i.1
    · rw [knows_receive h hmac, knows, ← shown_congr hmac, hall i.2, tells_self, Message.tells]
      simp only [hmac, true_and]
    · rw [knows, shown_receive, if_neg hmac, Message.tells, if_neg (fun htells => hmac htells.1), Option.none_or]
      rfl

theorem not_misread_of_reads (h : m.kind = .event → suffixed? .latest m.paramName = meaning m.paramName) :
    ¬ Misread t m := by
  rintro ⟨hkind, ⟨hname, -⟩ | ⟨hname, -⟩⟩
  · have hread := h hkind
    rw [hname, suffixed_paramName, meaning_paramName] at hread
    cases hread
  · have hread := h hkind
    rw [hname, suffixed_paramName, meaning_paramName] at hread
    cases hread

theorem renews_of_reads (hknown : Known t m) (h : m.takenFor = meaning m.paramName) :
    Renews (receive psm .gateway) knows Message.tells t m := by
  rw [renews_iff_statuses hknown]
  intro st
  rw [tells_self, Message.brings, h]

theorem renews_phy_iff (hknown : Known t m) (hkind : m.kind = .event) (hname : m.paramName = paramName .v1 .phy) :
    Renews (receive psm .gateway) knows Message.tells t m ↔ ¬ Misread t m := by
  have htaken : m.takenFor = some .wan := by
    rw [Message.takenFor, hkind, hname]
    exact suffixed_paramName .v1 .phy
  have hlink : m.paramName ≠ paramName .v1 .link := by
    rw [hname, Ne, paramName_inj]
    simp
  rw [renews_iff_statuses hknown]
  unfold Misread
  simp only [hkind, hname, true_and, hname ▸ hlink, false_and, or_false, not_not, tells_self, Message.brings,
    htaken, meaning_paramName]
  constructor
  · intro hall
    exact ⟨by simpa using hall .phy, by simpa using (hall .wan).symm⟩
  · rintro ⟨hphy, hwan⟩ st
    cases st with
    | phy => simpa using hphy
    | wan => simpa using hwan.symm
    | link => rfl

theorem renews_link_iff (hknown : Known t m) (hkind : m.kind = .event) (hname : m.paramName = paramName .v1 .link) :
    Renews (receive psm .gateway) knows Message.tells t m ↔ ¬ Misread t m := by
  have htaken : m.takenFor = none := by
    rw [Message.takenFor, hkind, hname]
    exact suffixed_paramName .v1 .link
  have hphy : m.paramName ≠ paramName .v1 .phy := by
    rw [hname, Ne, paramName_inj]
    simp
  rw [renews_iff_statuses hknown]
  unfold Misread
  simp only [hkind, hname, true_and, hname ▸ hphy, false_and, false_or, not_not, tells_self, Message.brings,
    htaken, meaning_paramName, Ne]
  constructor
  · intro hall
    simpa using hall .link
  · intro hlink st
    cases st with
    | phy => rfl
    | wan => rfl
    | link => simpa using hlink

theorem renews_iff (hknown : Known t m) (hasked : m.Asked) :
    Renews (receive psm .gateway) knows Message.tells t m ↔ ¬ Misread t m := by
  obtain ⟨v, hv⟩ := hasked
  cases hkind : m.kind with
  | answer =>
    refine iff_of_true (renews_of_reads hknown ?_) (not_misread_of_reads fun h => ?_)
    · rw [Message.takenFor, hkind]
      exact answered_asked hv
    · rw [hkind] at h
      cases h
  | event =>
    have hreads (h : suffixed? .latest m.paramName = meaning m.paramName) :
        Renews (receive psm .gateway) knows Message.tells t m ↔ ¬ Misread t m := by
      refine iff_of_true (renews_of_reads hknown ?_) (not_misread_of_reads fun _ => h)
      rw [Message.takenFor, hkind]
      exact h
    cases v with
    | latest => exact hreads (suffixed_asked hv fun _ _ => rfl)
    | v1 =>
      by_cases hphy : m.paramName = paramName .v1 .phy
      · exact renews_phy_iff hknown hkind hphy
      by_cases hlink : m.paramName = paramName .v1 .link
      · exact renews_link_iff hknown hkind hlink
      refine hreads (suffixed_asked hv fun st hst => ?_)
      cases st with
      | phy => exact absurd hst hphy
      | link => exact absurd hst hlink
      | wan => rfl

theorem Known.receive (h : Known t m) (m' : Message) : Known (receive psm .gateway t m') m := by
  unfold Known
  rw [receive_gateway]
  exact rowOf?_modifyRemote_ne_none (isOf_handle psm m') h

theorem Known.foldl (h : Known t m) (ms : List Message) :
    Known (ms.foldl (RemoteReports.receive psm .gateway) t) m := by
  induction ms generalizing t with
  | nil => exact h
  | cons m' ms ih => exact ih (h.receive m')

/-- Of every device in the table each status is what the device said of it last, after every message and
whatever the other devices say, if and only if no event is misread. -/
theorem reports_followed_iff {ms : List Message} (hknown : ∀ m ∈ ms, Known t m) (hasked : ∀ m ∈ ms, m.Asked) :
    Follows (receive psm .gateway) knows Message.tells t ms ↔
      ∀ done m, done ++ [m] <+: ms → ¬ Misread (done.foldl (receive psm .gateway) t) m := by
  rw [follows_iff]
  refine forall_congr' fun done => forall_congr' fun m => imp_congr_right fun hpre => ?_
  have hm : m ∈ ms := hpre.subset (by simp)
  exact renews_iff ((hknown m hm).foldl done) (hasked m hm)

/-! ## One device, of either data model -/

namespace OneDevice

def macAddr : String := "02:00:00:00:00:01"

/-- The entry of a new remote device. -/
def entry (mac : String) : Iface :=
  { remoteCpeMac := mac, ifaceType := .remote, virtIf := { dhcpv4Iface := ⟨[], by decide⟩ } }

def house : List Iface := [entry macAddr]

/-- The device publishes that its base interface is up. -/
def wentUp (v : Version) : Message := ⟨.event, macAddr, paramName v .phy, "Up".toList⟩

theorem known (v : Version) : ∀ m ∈ [wentUp v], Known house m := by
  intro m hm
  rw [List.mem_singleton.mp hm]
  unfold Known
  cases v <;> decide +kernel

theorem asked_wentUp (v : Version) : ∀ m ∈ [wentUp v], m.Asked := by
  intro m hm
  rw [List.mem_singleton.mp hm]
  exact ⟨v, paramName_asked v .phy⟩

end OneDevice

/-- The event of a device of the first data model is not followed. -/
theorem reports_followed_by_model :
    Follows (receive {} .gateway) knows Message.tells OneDevice.house [OneDevice.wentUp .latest] ∧
      ¬ Follows (receive {} .gateway) knows Message.tells OneDevice.house [OneDevice.wentUp .v1] := by
  constructor
  · refine (reports_followed_iff (OneDevice.known .latest) (OneDevice.asked_wentUp .latest)).mpr fun done m hpre => ?_
    have hm : m = OneDevice.wentUp .latest := List.mem_singleton.mp (hpre.subset (by simp))
    subst hm
    exact not_misread_of_reads fun _ => suffixed_asked (paramName_asked .latest .phy) fun _ _ => rfl
  · intro h
    refine (reports_followed_iff (OneDevice.known .v1) (OneDevice.asked_wentUp .v1)).mp h [] _ (List.prefix_refl _) ?_
    refine ⟨rfl, .inl ⟨rfl, fun hheld => ?_⟩⟩
    exact absurd hheld.1 (by decide +kernel)

end RemoteReports

end WanManager
