import WanManager.Types
import WanManager.Text.Scan

/-! # The name servers

`wan_updateDNS`, which writes `/etc/resolv.conf` and the sysevents of the name servers from the
leases of a virtual interface whenever a family is set up or torn down; without the product switch
that leaves the file to the primary interface. `inet_pton` is a parameter. -/

namespace WanManager.ResolvConf

/-- `AF_INET` and `AF_INET6` -/
inductive AddressFamily where
  | inet | inet6
  deriving DecidableEq, Repr

/-- `DEVICE_NETWORKING_MODE` -/
inductive NetworkingMode where
  | gateway | modem
  deriving DecidableEq, Repr

/-! ## Valid servers -/

/-- `strncmp` over the length of the first string -/
def startsWith (start s : String) : Bool := start.toList.isPrefixOf s.toList

/-- `ParsePrefixAddress`: an address, with a prefix length or without; it has memory to do so. -/
def parsePrefixAddress (prefixAddr : String) : Option (String × UInt32) :=
  let address := upTo '/' prefixAddr
  let plen := match prefixAddr.toList.dropWhile (· ≠ '/') with
    | [] => 128
    | _ :: separator => Text.atoi (separator.dropWhile Text.isBlank)
  if address.length < 40 ∧ plen ≤ 128 then some (address, plen) else none

/-- `IsZeroIpvxAddress` -/
def isZeroIpvxAddress (af : AddressFamily) (addr : String) : Bool :=
  addr == "" || match af with
    | .inet => addr == "0.0.0.0"
    | .inet6 => addr == "0:0:0:0:0:0:0:0" || addr == "::" || addr == "::/128" || addr == "::/0"

section Valid

variable (inetPton : AddressFamily → String → Bool)

/-- `IsValidIpv4Address` -/
def isValidIpv4Address (ipAddress : String) : Bool :=
  inetPton .inet ipAddress && ipAddress != "0.0.0.0"

/-- `IsValidIpAddress` -/
def isValidIpAddress (af : AddressFamily) (address : String) : Bool :=
  address != "" && match af with
    | .inet6 => match parsePrefixAddress address with
      | some (addr, _) => inetPton .inet6 addr
      | none => false
    | .inet => isValidIpv4Address inetPton address

/-- `IsValidDnsServer`, where `RETURN_OK` is true. Loopback and link-local servers are refused for
IPv4 only. -/
def isValidDnsServer (af : AddressFamily) (nameServer : String) : Bool :=
  nameServer != "" && isValidIpAddress inetPton af nameServer && !isZeroIpvxAddress af nameServer &&
    match af with
    | .inet => !startsWith "255.255.255.255" nameServer && !startsWith "169.254" nameServer &&
        !startsWith "127" nameServer
    | .inet6 => true

end Valid

/-! ## The update -/

/-- One line of the file. -/
inductive Line where
  | nameserver (server : String)
  | loopback
  deriving DecidableEq, Repr

def Line.text : Line → String
  | .nameserver server => "nameserver " ++ server ++ "\n"
  | .loopback => "nameserver 127.0.0.1 \n"

/-- The text of the file. -/
def fileText (lines : List Line) : String := String.join (lines.map Line.text)

/-- The sysevents of the name servers. Those of IPv4 exist for the interface by its name too. -/
structure DnsSysevents where
  ipv4Primary : String := ""
  ipv4Secondary : String := ""
  ipv6Primary : String := ""
  ipv6Secondary : String := ""
  wanPrimary : String := ""
  wanSecondary : String := ""
  dnsNumber : String := ""
  deriving DecidableEq, Repr

namespace DnsSysevents

def setIpv4Primary (server : String) (e : DnsSysevents) : DnsSysevents :=
  { e with ipv4Primary := server, wanPrimary := server }

def setIpv4Secondary (server : String) (e : DnsSysevents) : DnsSysevents :=
  { e with ipv4Secondary := server, wanSecondary := server }

def setIpv6Primary (server : String) (e : DnsSysevents) : DnsSysevents :=
  { e with ipv6Primary := server }

def setIpv6Secondary (server : String) (e : DnsSysevents) : DnsSysevents :=
  { e with ipv6Secondary := server }

/-- The saved servers, in the order of the file. -/
def servers (e : DnsSysevents) : List String :=
  [e.ipv4Primary, e.ipv4Secondary, e.ipv6Primary, e.ipv6Secondary]

end DnsSysevents

/-- What a buffer of `size` characters takes of a value, with the zero behind it. -/
def buffer (size : Nat) (value : String) : String := String.ofList (value.toList.take (size - 1))

/-- `sysevent_get` of the saved servers. -/
def DnsSysevents.syseventGet (e : DnsSysevents) : List String :=
  [buffer 64 e.ipv4Primary, buffer 64 e.ipv4Secondary, buffer 128 e.ipv6Primary,
    buffer 128 e.ipv6Secondary]

/-- The local variables of `wan_updateDNS`; `fp` holds the lines written, and is `NULL` in modem
mode. -/
structure DnsUpdate where
  fp : Option (List Line)
  sysevents : DnsSysevents
  validDns : Bool := false
  resolvConfChanged : Bool := false

/-- What it leaves behind, unless it cannot open the file. -/
structure DnsResult where
  resolvConf : Option (List Line)
  sysevents : DnsSysevents
  /-- `SYSEVENT_DHCP_SERVER_RESTART` is set. -/
  dhcpServerRestart : Bool
  /-- `Update_Interface_Status` is called. -/
  interfaceStatus : Bool

namespace DnsUpdate

def write (line : Line) (u : DnsUpdate) : DnsUpdate :=
  { u with
    fp := u.fp.map (· ++ [line])
    resolvConfChanged := u.resolvConfChanged || u.fp.isSome }

/-- One of the four servers, with the sysevents it is saved in. -/
def server (inetPton : AddressFamily → String → Bool) (af : AddressFamily)
    (set : String → DnsSysevents → DnsSysevents) (nameServer : String) (u : DnsUpdate) : DnsUpdate :=
  if isValidDnsServer inetPton af nameServer then
    { u.write (.nameserver nameServer) with
      sysevents := set nameServer u.sysevents, validDns := true }
  else { u with sysevents := set "" u.sysevents }

/-- The second server of IPv4, after a first one. -/
def setDnsNumber (valid : Bool) (u : DnsUpdate) : DnsUpdate :=
  if valid && u.validDns then { u with sysevents.dnsNumber := "2" } else u

def ipv4 (inetPton : AddressFamily → String → Bool) (add : Bool) (d : Ipv4Data) (u : DnsUpdate) :
    DnsUpdate :=
  if add then
    let u := u.server inetPton .inet DnsSysevents.setIpv4Primary d.dnsServer
    let u := u.setDnsNumber (isValidDnsServer inetPton .inet d.dnsServer1)
    u.server inetPton .inet DnsSysevents.setIpv4Secondary d.dnsServer1
  else { u with sysevents := (u.sysevents.setIpv4Primary "").setIpv4Secondary "" }

def ipv6 (inetPton : AddressFamily → String → Bool) (add : Bool) (d : Ipv6Lease) (u : DnsUpdate) :
    DnsUpdate :=
  if add then
    let u := u.server inetPton .inet6 DnsSysevents.setIpv6Primary d.nameserver
    u.server inetPton .inet6 DnsSysevents.setIpv6Secondary d.nameserver1
  else { u with sysevents := (u.sysevents.setIpv6Primary "").setIpv6Secondary "" }

/-- Without a valid server the file names the loopback address. -/
def fallBack (u : DnsUpdate) : DnsUpdate := if u.validDns then u else u.write .loopback

end DnsUpdate

/-- The four servers of a virtual interface. -/
def offered (ip : IfaceIp) : List String :=
  [ip.ipv4Data.dnsServer, ip.ipv4Data.dnsServer1, ip.ipv6Data.nameserver, ip.ipv6Data.nameserver1]

/-- `wan_updateDNS`; `opens` is whether `fopen` succeeds, and `none` is `RETURN_ERR`. -/
def wanUpdateDns (inetPton : AddressFamily → String → Bool) (opens : Bool) (mode : NetworkingMode)
    (ip : IfaceIp) (addIpv4 addIpv6 : Bool) (e : DnsSysevents) : Option DnsResult :=
  if mode = .gateway ∧ opens = false then none
  else
    let start : DnsUpdate := { fp := if mode = .gateway then some [] else none, sysevents := e }
    if addIpv4 = false ∧ addIpv6 = false then
      let u := (start.ipv4 inetPton false ip.ipv4Data).ipv6 inetPton false ip.ipv6Data.toIpv6Lease
      some
        { resolvConf := u.fallBack.fp, sysevents := u.sysevents
          dhcpServerRestart := true, interfaceStatus := u.fallBack.resolvConfChanged }
    else
      let u := (start.ipv4 inetPton addIpv4 ip.ipv4Data).ipv6 inetPton addIpv6 ip.ipv6Data.toIpv6Lease
      some
        { resolvConf := u.fallBack.fp, sysevents := u.sysevents
          dhcpServerRestart := decide (offered ip ≠ e.syseventGet)
          interfaceStatus := u.fallBack.resolvConfChanged }

/-! ## What the file names -/

section Law

variable (inetPton : AddressFamily → String → Bool)

/-- A server, if it is valid. -/
def validOf (af : AddressFamily) (server : String) : List String :=
  if isValidDnsServer inetPton af server then [server] else []

/-- The valid servers of the enabled families, in the order of the file. -/
def validServers (addIpv4 addIpv6 : Bool) (ip : IfaceIp) : List String :=
  (if addIpv4 then
      validOf inetPton .inet ip.ipv4Data.dnsServer ++ validOf inetPton .inet ip.ipv4Data.dnsServer1
    else []) ++
    if addIpv6 then
      validOf inetPton .inet6 ip.ipv6Data.nameserver ++ validOf inetPton .inet6 ip.ipv6Data.nameserver1
    else []

/-- The lines for these servers. -/
def written (servers : List String) : List Line :=
  servers.map .nameserver ++ if servers = [] then [.loopback] else []

variable {inetPton}

theorem loopback_mem_written {servers : List String} : .loopback ∈ written servers ↔ servers = [] := by
  unfold written
  split
  · next h => simp [h]
  · next h => simp [h]

theorem written_ne_nil (servers : List String) : written servers ≠ [] := by
  cases servers with
  | nil => exact List.cons_ne_nil _ _
  | cons server rest => exact List.cons_ne_nil _ _

theorem text_ne_empty (line : Line) : line.text ≠ "" := by
  cases line with
  | nameserver server =>
    intro h
    have hlength := congrArg String.length h
    simp [Line.text] at hlength
  | loopback => decide

theorem fileText_ne_empty {lines : List Line} (h : lines ≠ []) : fileText lines ≠ "" := by
  cases lines with
  | nil => exact absurd rfl h
  | cons line rest =>
    intro htext
    rw [fileText, List.map_cons, String.join_cons] at htext
    exact text_ne_empty line (String.append_eq_empty_iff.mp htext).1

/-- The update has written the lines of `servers`. -/
structure HasWritten (servers : List String) (u : DnsUpdate) : Prop where
  fp : u.fp = some (servers.map .nameserver)
  validDns : u.validDns = decide (servers ≠ [])

namespace HasWritten

variable {servers : List String} {u : DnsUpdate} (h : HasWritten servers u)

include h

theorem server (af : AddressFamily) (set : String → DnsSysevents → DnsSysevents) (s : String) :
    HasWritten (servers ++ validOf inetPton af s) (u.server inetPton af set s) := by
  unfold DnsUpdate.server validOf
  split
  · exact ⟨by simp [DnsUpdate.write, h.fp], by simp⟩
  · exact ⟨by simpa using h.fp, by simpa using h.validDns⟩

theorem setSysevents (e : DnsSysevents) : HasWritten servers { u with sysevents := e } :=
  ⟨h.fp, h.validDns⟩

theorem setDnsNumber (valid : Bool) : HasWritten servers (u.setDnsNumber valid) := by
  unfold DnsUpdate.setDnsNumber
  split
  · exact ⟨h.fp, h.validDns⟩
  · exact h

theorem ipv4 (add : Bool) (d : Ipv4Data) :
    HasWritten (servers ++ if add then validOf inetPton .inet d.dnsServer ++
      validOf inetPton .inet d.dnsServer1 else []) (u.ipv4 inetPton add d) := by
  cases add with
  | false =>
    rw [if_neg Bool.false_ne_true, List.append_nil]
    exact h.setSysevents _
  | true =>
    rw [if_pos rfl, ← List.append_assoc]
    exact ((h.server _ _ _).setDnsNumber _).server _ _ _

theorem ipv6 (add : Bool) (d : Ipv6Lease) :
    HasWritten (servers ++ if add then validOf inetPton .inet6 d.nameserver ++
      validOf inetPton .inet6 d.nameserver1 else []) (u.ipv6 inetPton add d) := by
  cases add with
  | false =>
    rw [if_neg Bool.false_ne_true, List.append_nil]
    exact h.setSysevents _
  | true =>
    rw [if_pos rfl, ← List.append_assoc]
    exact (h.server _ _ _).server _ _ _

theorem fallBack : u.fallBack.fp = some (written servers) := by
  unfold DnsUpdate.fallBack written
  rw [h.validDns]
  by_cases hnil : servers = []
  · simp [hnil, DnsUpdate.write, h.fp]
  · simp [hnil, h.fp]

end HasWritten

theorem hasWritten_families (ip : IfaceIp) (addIpv4 addIpv6 : Bool) (e : DnsSysevents) :
    HasWritten (validServers inetPton addIpv4 addIpv6 ip)
      ((({ fp := some [], sysevents := e } : DnsUpdate).ipv4 inetPton addIpv4 ip.ipv4Data).ipv6 inetPton
        addIpv6 ip.ipv6Data.toIpv6Lease) := by
  have hstart : HasWritten [] ({ fp := some [], sysevents := e } : DnsUpdate) := ⟨rfl, rfl⟩
  exact (hstart.ipv4 addIpv4 ip.ipv4Data).ipv6 addIpv6 ip.ipv6Data.toIpv6Lease

/-- In gateway mode the file names the valid servers of the enabled families in their order, and the
loopback address exactly if there is none of them; unless it cannot be opened, it is not empty. -/
theorem resolvConf_gateway (ip : IfaceIp) (addIpv4 addIpv6 : Bool) (e : DnsSysevents) :
    wanUpdateDns inetPton false .gateway ip addIpv4 addIpv6 e = none ∧
      ∃ r lines, wanUpdateDns inetPton true .gateway ip addIpv4 addIpv6 e = some r ∧
        r.resolvConf = some lines ∧
        lines = (validServers inetPton addIpv4 addIpv6 ip).map .nameserver ++
          (if validServers inetPton addIpv4 addIpv6 ip = [] then [.loopback] else []) ∧
        (.loopback ∈ lines ↔ validServers inetPton addIpv4 addIpv6 ip = []) ∧ fileText lines ≠ "" := by
  have hfile : ∃ r, wanUpdateDns inetPton true .gateway ip addIpv4 addIpv6 e = some r ∧
      r.resolvConf = some (written (validServers inetPton addIpv4 addIpv6 ip)) := by
    have hwrote := @hasWritten_families inetPton ip addIpv4 addIpv6 e
    rw [wanUpdateDns, if_neg (by simp)]
    by_cases hnone : addIpv4 = false ∧ addIpv6 = false
    · obtain ⟨rfl, rfl⟩ := hnone
      exact ⟨_, rfl, hwrote.fallBack⟩
    · rw [if_neg hnone]
      exact ⟨_, rfl, hwrote.fallBack⟩
  obtain ⟨r, hr, hlines⟩ := hfile
  exact ⟨rfl, r, _, hr, hlines, rfl, loopback_mem_written, fileText_ne_empty (written_ne_nil _)⟩

/-- A loopback server of IPv4 is passed over, and IPv6 is not enabled. -/
example : (wanUpdateDns (fun _ _ => true) true .gateway
    { ipv4Data := { dnsServer := "127.0.0.53", dnsServer1 := "192.0.2.1" }
      ipv6Data := { nameserver := "2001:db8::53" } } true false {}).bind (·.resolvConf) =
      some [.nameserver "192.0.2.1"] := by decide +kernel

end Law

/-! ## The sysevents -/

section Sysevents

variable {inetPton : AddressFamily → String → Bool}

/-- What is saved of a server: itself, if its family is enabled and it is valid. -/
def saved (inetPton : AddressFamily → String → Bool) (af : AddressFamily) (add : Bool) (server : String) :
    String :=
  if add && isValidDnsServer inetPton af server then server else ""

theorem sysevents_server (u : DnsUpdate) (af : AddressFamily)
    (set : String → DnsSysevents → DnsSysevents) (s : String) :
    (u.server inetPton af set s).sysevents = set (saved inetPton af true s) u.sysevents := by
  unfold DnsUpdate.server saved
  rw [Bool.true_and]
  split <;> rfl

theorem servers_ipv4 (u : DnsUpdate) (add : Bool) (d : Ipv4Data) :
    (u.ipv4 inetPton add d).sysevents.servers =
      [saved inetPton .inet add d.dnsServer, saved inetPton .inet add d.dnsServer1,
        u.sysevents.ipv6Primary, u.sysevents.ipv6Secondary] := by
  cases add with
  | false => rfl
  | true =>
    simp only [DnsUpdate.ipv4, if_true, sysevents_server, DnsUpdate.setDnsNumber]
    split <;> simp only [sysevents_server] <;> rfl

theorem servers_ipv6 (u : DnsUpdate) (add : Bool) (d : Ipv6Lease) :
    (u.ipv6 inetPton add d).sysevents.servers =
      [u.sysevents.ipv4Primary, u.sysevents.ipv4Secondary,
        saved inetPton .inet6 add d.nameserver, saved inetPton .inet6 add d.nameserver1] := by
  cases add with
  | false => rfl
  | true =>
    simp only [DnsUpdate.ipv6, if_true, sysevents_server]
    rfl

theorem filter_saved (af : AddressFamily) (add : Bool) (s : String) (rest : List String) :
    (saved inetPton af add s :: rest).filter (· ≠ "") =
      (if add then validOf inetPton af s else []) ++ rest.filter (· ≠ "") := by
  unfold saved validOf
  cases add with
  | false => simp
  | true =>
    cases hvalid : isValidDnsServer inetPton af s with
    | false => simp
    | true =>
      have hne : s ≠ "" := by
        rintro rfl
        cases hvalid
      simp [hne]

theorem sysevents_wanUpdateDns {opens : Bool} {mode : NetworkingMode} {ip : IfaceIp}
    {addIpv4 addIpv6 : Bool} {e : DnsSysevents} {r : DnsResult}
    (h : wanUpdateDns inetPton opens mode ip addIpv4 addIpv6 e = some r) :
    ∃ u : DnsUpdate, r.sysevents =
      ((u.ipv4 inetPton addIpv4 ip.ipv4Data).ipv6 inetPton addIpv6 ip.ipv6Data.toIpv6Lease).sysevents := by
  unfold wanUpdateDns at h
  by_cases hopens : mode = .gateway ∧ opens = false
  · rw [if_pos hopens] at h
    cases h
  rw [if_neg hopens] at h
  by_cases hnone : addIpv4 = false ∧ addIpv6 = false
  · simp only [if_pos hnone] at h
    obtain ⟨rfl, rfl⟩ := hnone
    exact ⟨_, congrArg DnsResult.sysevents (Option.some.inj h).symm⟩
  · simp only [if_neg hnone] at h
    exact ⟨_, congrArg DnsResult.sysevents (Option.some.inj h).symm⟩

/-- Each server is saved where it belongs. -/
theorem saved_wanUpdateDns {opens : Bool} {mode : NetworkingMode} {ip : IfaceIp}
    {addIpv4 addIpv6 : Bool} {e : DnsSysevents} {r : DnsResult}
    (h : wanUpdateDns inetPton opens mode ip addIpv4 addIpv6 e = some r) :
    r.sysevents.servers =
      [saved inetPton .inet addIpv4 ip.ipv4Data.dnsServer,
        saved inetPton .inet addIpv4 ip.ipv4Data.dnsServer1,
        saved inetPton .inet6 addIpv6 ip.ipv6Data.nameserver,
        saved inetPton .inet6 addIpv6 ip.ipv6Data.nameserver1] := by
  obtain ⟨u, hu⟩ : ∃ u : DnsUpdate, r.sysevents =
      ((u.ipv4 inetPton addIpv4 ip.ipv4Data).ipv6 inetPton addIpv6 ip.ipv6Data.toIpv6Lease).sysevents :=
    sysevents_wanUpdateDns h
  have h4 := @servers_ipv4 inetPton u addIpv4 ip.ipv4Data
  simp only [DnsSysevents.servers, List.cons.injEq] at h4
  rw [hu, servers_ipv6, h4.1, h4.2.1]

/-- In either mode the sysevents that are set are those of the servers the file names. -/
theorem servers_wanUpdateDns {opens : Bool} {mode : NetworkingMode} {ip : IfaceIp}
    {addIpv4 addIpv6 : Bool} {e : DnsSysevents} {r : DnsResult}
    (h : wanUpdateDns inetPton opens mode ip addIpv4 addIpv6 e = some r) :
    r.sysevents.servers.filter (· ≠ "") = validServers inetPton addIpv4 addIpv6 ip := by
  rw [saved_wanUpdateDns h]
  simp only [filter_saved, List.filter_nil, List.append_nil]
  unfold validServers
  cases addIpv4 <;> cases addIpv6 <;> simp

end Sysevents

end WanManager.ResolvConf
