import Mathlib.Data.List.Nodup
import WanManager.Text.CString
import WanManager.Text.InetPrint

/-! # The prefixes of the LAN interfaces

`GenIPv6Prefix` gives each LAN interface a /64 of the prefix that was delegated. The number of the
/64 comes from a counter of the process, and is kept in a sysevent for the next time; the process
may be restarted in between. -/

namespace WanManager

namespace LanPrefixes

open Text

/-! ## The functions -/

/-- The sysevents of `GenIPv6Prefix` and the counter of the process. -/
structure Store where
  sysevents : List (List Char × List Char) := []
  interfaceNum : UInt32 := 4
  deriving DecidableEq, Repr

/-- `sysevent_get`; what has not been set is empty. -/
def Store.get (s : Store) (name : List Char) : List Char :=
  ((s.sysevents.find? (·.1 = name)).map Prod.snd).getD []

/-- `sysevent_set` -/
def Store.set (s : Store) (name value : List Char) : Store :=
  { s with sysevents := s.sysevents.filter (·.1 ≠ name) ++ [(name, value)] }

/-- `_ipv6_index` -/
def suffix : List Char := "_ipv6_index".toList

/-- `buf[POS_PREFIX_DELEGATION] + index`: the low byte of the fourth group, without a carry. -/
def addIndex (buf : Ipv6) (index : UInt32) : Ipv6 where
  groups := buf.groups.modify 3 fun g =>
    UInt16.ofNat (g.toNat / 256 * 256 + (g.toNat + index.toNat) % 256)
  length_eq := by rw [List.length_modify, buf.length_eq]

/-- `CalcIPv6Prefix` -/
def calcIPv6Prefix (globalPref : List Char) (index : UInt32) : Option (List Char) :=
  (readIpv6 globalPref).map fun buf => inetNtop6 (addIndex buf index)

/-- `GenIPv6Prefix`: the prefix when it succeeds; `none` writes past the end of a name. -/
def genIPv6Prefix (ifName globalPref : List Char) (s : Store) :
    Option (Option (List Char) × Store) := do
  let cmd : CStr 100 ← CStr.ofList? (ifName ++ suffix)
  let out := s.get cmd.chars
  let index := if out ≠ [] then atoi out else 0
  if index = 0 then
    match calcIPv6Prefix globalPref s.interfaceNum with
    | none => some (none, s)
    | some pref =>
      let cmd : CStr 99 := .snprintf (ifName ++ suffix)
      let s := s.set cmd.chars (printInt s.interfaceNum).toList
      some (some (pref ++ "/64".toList), { s with interfaceNum := s.interfaceNum + 1 })
  else
    match calcIPv6Prefix globalPref index with
    | none => some (none, s)
    | some pref => some (some (pref ++ "/64".toList), s)

/-! ## What they are for -/

/-- The first 64 bits of an address. -/
def top (ip : Ipv6) : Nat := (ip.groups.take 4).foldl (fun v g => v * 65536 + g.toNat) 0

/-- The first bits of an address, 64 at most. -/
def network (ip : Ipv6) (length : Nat) : Nat := top ip / 2 ^ (64 - length)

/-- A delegated prefix, which has zeros behind its length, as a text. -/
structure Delegated where
  text : List Char
  address : Ipv6
  length : Nat
  reads : readIpv6 text = some address
  length_le : length ≤ 60
  zeros : top address % 2 ^ (64 - length) = 0

def Delegated.Same (p q : Delegated) : Prop :=
  p.length = q.length ∧ network p.address p.length = network q.address q.length

/-- A call of the function, or a restart of the process, which keeps the sysevents. -/
inductive Call where
  | gen (ifName : List Char) (delegated : Delegated)
  | restart

/-- A prefix that has been given to an interface. -/
structure Handed where
  ifName : List Char
  delegated : Delegated
  pref : List Char

/-- What a run gives to interfaces. -/
def handed : List Call → Store → Option (List Handed)
  | [], _ => some []
  | .restart :: calls, s => handed calls { s with interfaceNum := 4 }
  | .gen ifName delegated :: calls, s => do
    let (pref, s) ← genIPv6Prefix ifName delegated.text s
    let rest ← handed calls s
    match pref with
    | some pref => some (⟨ifName, delegated, pref⟩ :: rest)
    | none => some rest

/-- The address of a text that ends with the length 64. -/
def slash64 (pref : List Char) : Option Ipv6 :=
  if "/64".toList <:+ pref then readIpv6 (pref.take (pref.length - 3)) else none

/-- Every call gives a /64 of the delegated prefix, and interfaces share a /64 of the same prefix
only with themselves. -/
def KeepsApart (calls : List Call) : Prop :=
  ∃ hs, handed calls {} = some hs ∧
    (∀ h ∈ hs, ∃ a, slash64 h.pref = some a ∧
      network a h.delegated.length = network h.delegated.address h.delegated.length) ∧
    ∀ h ∈ hs, ∀ h' ∈ hs, h.delegated.Same h'.delegated → ∀ a ∈ slash64 h.pref,
      ∀ a' ∈ slash64 h'.pref, network a 64 = network a' 64 ↔ h.ifName = h'.ifName

/-! ## When that holds -/

/-- The index that is kept for an interface; 0 is none. -/
def Store.index (s : Store) (ifName : List Char) : UInt32 :=
  if s.get (ifName ++ suffix) ≠ [] then atoi (s.get (ifName ++ suffix)) else 0

/-- The index that an interface is given. -/
def Store.next (s : Store) (ifName : List Char) : UInt32 :=
  if s.index ifName = 0 then s.interfaceNum else s.index ifName

/-- The name of the sysevent fits, the index fits into the bits between the delegated prefix and the
/64, of which it reaches eight, and a new index is not the one of another interface. -/
def Meets (s : Store) : Call → Prop
  | .restart => True
  | .gen ifName p =>
    (ifName ++ suffix).length < 99 ∧
      (p.length ≤ 56 ∨ (s.next ifName).toNat % 256 < 2 ^ (64 - p.length)) ∧
      (s.index ifName = 0 → s.interfaceNum ≠ 0 ∧
        ∀ e ∈ s.sysevents, (atoi e.2).toNat % 256 ≠ s.interfaceNum.toNat % 256)

/-- What is kept after a call. -/
def Call.after : Call → Store → Store
  | .restart, s => { s with interfaceNum := 4 }
  | .gen ifName p, s => ((genIPv6Prefix ifName p.text s).map Prod.snd).getD s

def AllMeet : List Call → Store → Prop
  | [], _ => True
  | c :: calls, s => Meets s c ∧ AllMeet calls (c.after s)

instance (s : Store) : ∀ c, Decidable (Meets s c)
  | .restart => .isTrue trivial
  | .gen ifName p => inferInstanceAs (Decidable ((ifName ++ suffix).length < 99 ∧
      (p.length ≤ 56 ∨ (s.next ifName).toNat % 256 < 2 ^ (64 - p.length)) ∧
      (s.index ifName = 0 → s.interfaceNum ≠ 0 ∧
        ∀ e ∈ s.sysevents, (atoi e.2).toNat % 256 ≠ s.interfaceNum.toNat % 256)))

instance : ∀ calls s, Decidable (AllMeet calls s)
  | [], _ => .isTrue trivial
  | c :: calls, s =>
    have := instDecidableAllMeet calls (c.after s)
    inferInstanceAs (Decidable (Meets s c ∧ AllMeet calls (c.after s)))

/-! ## Prefixes -/

theorem atoi_printInt (n : UInt32) : atoi (printInt n).toList = n := by
  rw [atoi, scanInt_printInt]

theorem slash64_append (ip : Ipv6) : slash64 (inetNtop6 ip ++ "/64".toList) = some ip := by
  rw [slash64, if_pos (List.suffix_append _ _), List.length_append]
  rw [show (inetNtop6 ip).length + "/64".toList.length - 3 = (inetNtop6 ip).length from
    Nat.add_sub_cancel .., List.take_left, readIpv6_inetNtop6]

theorem top_addIndex (ip : Ipv6) (index : UInt32) :
    top (addIndex ip index) = top ip / 256 * 256 + (top ip + index.toNat) % 256 := by
  obtain ⟨groups, hlength⟩ := ip
  match groups, hlength with
  | [g₀, g₁, g₂, g₃, _, _, _, _], _ =>
    have hlt := g₃.toNat_lt
    have hsum : g₃.toNat / 256 * 256 + (g₃.toNat + index.toNat) % 256 < UInt16.size := by
      rw [UInt16.size]
      omega
    simp only [top, addIndex, List.modify_succ_cons, List.modify_zero_cons, List.take_succ_cons,
      List.take_zero, List.foldl_cons, List.foldl_nil, UInt16.toNat_ofNat_of_lt' hsum]
    omega

/-- A prefix with the index in the bits behind it is in the delegated prefix. -/
theorem network_addIndex (p : Delegated) {index : UInt32}
    (h : p.length ≤ 56 ∨ index.toNat % 256 < 2 ^ (64 - p.length)) :
    network (addIndex p.address index) p.length = network p.address p.length := by
  have hzeros := p.zeros
  have hle := p.length_le
  rw [network, network, top_addIndex]
  generalize top p.address = t at *
  generalize p.length = n at *
  by_cases hn : n ≤ 56
  · have hpow : 2 ^ (64 - n) = 256 * 2 ^ (56 - n) := by
      rw [show 64 - n = 8 + (56 - n) by omega, Nat.pow_add]
    rw [hpow, ← Nat.div_div_eq_div_mul, ← Nat.div_div_eq_div_mul]
    congr 1
    omega
  · have h := h.resolve_left hn
    obtain rfl | rfl | rfl | rfl : n = 57 ∨ n = 58 ∨ n = 59 ∨ n = 60 := by omega
    all_goals
      simp only [Nat.reduceSub, Nat.reducePow] at hzeros h ⊢
      omega

/-- Prefixes of the same delegated prefix differ in the low byte of the index. -/
theorem network_eq_iff {p q : Delegated} (h : p.Same q) {i j : UInt32} :
    network (addIndex p.address i) 64 = network (addIndex q.address j) 64 ↔
      i.toNat % 256 = j.toNat % 256 := by
  have htop : top p.address = top q.address := by
    obtain ⟨hlength, hnetwork⟩ := h
    rw [network, network, ← hlength] at hnetwork
    have hq := q.zeros
    rw [← hlength] at hq
    rw [← Nat.div_add_mod (top p.address) (2 ^ (64 - p.length)), p.zeros, hnetwork,
      ← Nat.div_add_mod (top q.address) (2 ^ (64 - p.length)), hq,
      Nat.mul_add_div (Nat.two_pow_pos _)]
    simp
  rw [network, network, Nat.sub_self, Nat.pow_zero, Nat.div_one, Nat.div_one, top_addIndex,
    top_addIndex, htop]
  omega

/-! ## What is kept -/

/-- The interfaces with their indexes, as the sysevents have them; no two share the low byte. -/
structure Owned (s : Store) (owners : List (List Char × UInt32)) : Prop where
  sysevents : s.sysevents = owners.map fun o => (o.1 ++ suffix, (printInt o.2).toList)
  names : (owners.map Prod.fst).Nodup
  bytes : (owners.map fun o => o.2.toNat % 256).Nodup
  nonzero : ∀ o ∈ owners, o.2 ≠ 0

variable {s : Store} {owners : List (List Char × UInt32)} {ifName : List Char}

theorem Owned.find? (h : Owned s owners) (ifName : List Char) :
    s.sysevents.find? (·.1 = ifName ++ suffix) =
      (owners.find? (·.1 = ifName)).map fun o => (o.1 ++ suffix, (printInt o.2).toList) := by
  rw [h.sysevents, List.find?_map]
  congr 1
  apply find?_congr
  intro o _
  simp

theorem Owned.index_of_mem (h : Owned s owners) {index : UInt32} (ho : (ifName, index) ∈ owners) :
    s.index ifName = index := by
  have hget : s.get (ifName ++ suffix) = (printInt index).toList := by
    rw [Store.get, h.find?, find?_of_nodup h.names ho]
    rfl
  rw [Store.index, hget, atoi_printInt, if_pos]
  intro hempty
  have hzero := atoi_printInt index
  rw [hempty] at hzero
  exact h.nonzero _ ho hzero.symm

theorem Owned.index_of_notMem (h : Owned s owners) (hno : ifName ∉ owners.map Prod.fst) :
    s.index ifName = 0 := by
  have hnone : owners.find? (·.1 = ifName) = none := by
    rw [List.find?_eq_none]
    intro o ho heq
    rw [decide_eq_true_iff] at heq
    exact hno (heq ▸ List.mem_map_of_mem ho)
  rw [Store.index, Store.get, h.find?, hnone]
  rfl

/-- A new interface is added. -/
theorem Owned.add (h : Owned s owners) (hno : ifName ∉ owners.map Prod.fst)
    (hzero : s.interfaceNum ≠ 0)
    (hbytes : ∀ e ∈ s.sysevents, (atoi e.2).toNat % 256 ≠ s.interfaceNum.toNat % 256) (n : UInt32) :
    Owned { s.set (ifName ++ suffix) (printInt s.interfaceNum).toList with interfaceNum := n }
      (owners ++ [(ifName, s.interfaceNum)]) := by
  have hkept : s.sysevents.filter (·.1 ≠ ifName ++ suffix) = s.sysevents := by
    rw [List.filter_eq_self, h.sysevents]
    intro e he
    obtain ⟨o, ho, rfl⟩ := List.mem_map.mp he
    rw [decide_eq_true_iff]
    intro heq
    exact hno (List.append_cancel_right heq ▸ List.mem_map_of_mem ho)
  refine ⟨?_, ?_, ?_, ?_⟩
  · simp only [Store.set, hkept, List.map_append, List.map_singleton, ← h.sysevents]
  · rw [List.map_append, List.map_singleton, List.nodup_append]
    refine ⟨h.names, by simp, ?_⟩
    rintro name hname _ hlast rfl
    obtain rfl : name = ifName := List.mem_singleton.mp hlast
    exact hno hname
  · rw [List.map_append, List.map_singleton, List.nodup_append]
    refine ⟨h.bytes, by simp, ?_⟩
    rintro byte hbyte _ hlast rfl
    obtain ⟨o, ho, rfl⟩ := List.mem_map.mp hbyte
    have hne := hbytes (o.1 ++ suffix, (printInt o.2).toList)
      (h.sysevents ▸ List.mem_map_of_mem (f := fun o => (o.1 ++ suffix, (printInt o.2).toList)) ho)
    rw [atoi_printInt] at hne
    exact hne (List.mem_singleton.mp hlast)
  · intro o ho
    obtain ho | ho := List.mem_append.mp ho
    · exact h.nonzero o ho
    · rw [List.mem_singleton.mp ho]
      exact hzero

/-- One call: the interface has its index from then on, and is given the prefix with it. -/
theorem gen_owned (h : Owned s owners) {p : Delegated} (hmeets : Meets s (.gen ifName p)) :
    ∃ s' owners', genIPv6Prefix ifName p.text s =
        some (some (inetNtop6 (addIndex p.address (s.next ifName)) ++ "/64".toList), s') ∧
      Owned s' owners' ∧ owners <+: owners' ∧ (ifName, s.next ifName) ∈ owners' := by
  obtain ⟨hname, -, hnew⟩ := hmeets
  have hcmd : (CStr.ofList? (ifName ++ suffix) : Option (CStr 100)) =
      some ⟨ifName ++ suffix, Nat.lt_succ_of_lt hname⟩ := CStr.ofList?_eq_some.mpr rfl
  have hcalc : ∀ index, calcIPv6Prefix p.text index =
      some (inetNtop6 (addIndex p.address index)) := by
    intro index
    rw [calcIPv6Prefix, p.reads, Option.map_some]
  rw [genIPv6Prefix, hcmd, Option.bind_eq_bind, Option.bind_some]
  dsimp only
  rw [← Store.index, hcalc, hcalc, CStr.chars_snprintf hname]
  by_cases hmem : ifName ∈ owners.map Prod.fst
  · obtain ⟨⟨name, index⟩, ho, hkey⟩ := List.mem_map.mp hmem
    obtain rfl : name = ifName := hkey
    have hindex := h.index_of_mem ho
    have hnext : s.next name = index := by
      rw [Store.next, hindex, if_neg (h.nonzero _ ho)]
    rw [hindex, if_neg (h.nonzero _ ho), hnext]
    exact ⟨s, owners, rfl, h, List.prefix_refl _, ho⟩
  · have hindex := h.index_of_notMem hmem
    obtain ⟨hzero, hbytes⟩ := hnew hindex
    have hnext : s.next ifName = s.interfaceNum := by rw [Store.next, if_pos hindex]
    rw [if_pos hindex, hnext]
    exact ⟨_, _, rfl, h.add hmem hzero hbytes _, List.prefix_append _ _, by simp⟩

/-! ## Runs -/

/-- What has been given to an interface is the prefix with its index. -/
def Gives (owners : List (List Char × UInt32)) (h : Handed) : Prop :=
  ∃ index, (h.ifName, index) ∈ owners ∧
    h.pref = inetNtop6 (addIndex h.delegated.address index) ++ "/64".toList ∧
      (h.delegated.length ≤ 56 ∨ index.toNat % 256 < 2 ^ (64 - h.delegated.length))

theorem handed_owned {calls : List Call} (h : Owned s owners) (hmeets : AllMeet calls s) :
    ∃ hs s' owners', handed calls s = some hs ∧ Owned s' owners' ∧ owners <+: owners' ∧
      ∀ x ∈ hs, Gives owners' x := by
  induction calls generalizing s owners with
  | nil => exact ⟨[], s, owners, rfl, h, List.prefix_refl _, by simp⟩
  | cons c calls ih =>
    obtain ⟨hcall, hmeets⟩ := hmeets
    cases c with
    | restart => exact ih ⟨h.sysevents, h.names, h.bytes, h.nonzero⟩ hmeets
    | gen ifName p =>
      obtain ⟨s₁, owners₁, hgen, howned, hprefix, hmem⟩ := gen_owned h hcall
      have hafter : (Call.gen ifName p).after s = s₁ := by rw [Call.after, hgen]; rfl
      rw [hafter] at hmeets
      obtain ⟨hs, s', owners', hrun, howned', hprefix', hgives⟩ := ih howned hmeets
      let pref := inetNtop6 (addIndex p.address (s.next ifName)) ++ "/64".toList
      refine ⟨⟨ifName, p, pref⟩ :: hs, s', owners', ?_, howned', hprefix.trans hprefix', ?_⟩
      · rw [handed, hgen, Option.bind_eq_bind, Option.bind_some]
        dsimp only
        rw [hrun]
        rfl
      · rw [List.forall_mem_cons]
        exact ⟨⟨_, hprefix'.subset hmem, rfl, hcall.2.1⟩, hgives⟩

/-- The interfaces of a run get different parts of a delegated prefix, and keep them, when every new
index is one that is not in use and every index fits its delegated prefix. -/
theorem prefixes_kept_apart (calls : List Call) (hmeets : AllMeet calls {}) : KeepsApart calls := by
  have hempty : Owned {} [] := ⟨rfl, List.nodup_nil, List.nodup_nil, by simp⟩
  obtain ⟨hs, s, owners, hrun, howned, -, hgives⟩ := handed_owned hempty hmeets
  refine ⟨hs, hrun, ?_, ?_⟩
  · intro h hmem
    obtain ⟨index, -, hpref, hfits⟩ := hgives h hmem
    exact ⟨_, hpref ▸ slash64_append _, network_addIndex _ hfits⟩
  · intro h hmem h' hmem' hsame a ha a' ha'
    obtain ⟨index, ho, hpref, -⟩ := hgives h hmem
    obtain ⟨index', ho', hpref', -⟩ := hgives h' hmem'
    rw [hpref, slash64_append, Option.mem_some] at ha
    rw [hpref', slash64_append, Option.mem_some] at ha'
    subst ha ha'
    rw [network_eq_iff hsame]
    constructor
    · intro hbyte
      exact congrArg Prod.fst (List.inj_on_of_nodup_map howned.bytes ho ho' hbyte)
    · intro hname
      have hsame := List.inj_on_of_nodup_map howned.names ho ho' hname
      exact congrArg (fun o => o.2.toNat % 256) hsame

/-! ## Examples -/

namespace Example

def delegated : Delegated where
  text := "2001:db8:1:10::".toList
  address := ⟨[0x2001, 0xdb8, 1, 0x10, 0, 0, 0, 0], rfl⟩
  length := 60
  reads := by decide +kernel
  length_le := by decide
  zeros := by decide

def kept : List Call :=
  [.gen "brlan1".toList delegated, .gen "brlan2".toList delegated, .restart,
    .gen "brlan1".toList delegated]

def restarted : List Call :=
  [.gen "brlan1".toList delegated, .restart, .gen "brlan2".toList delegated]

end Example

theorem prefixes_kept_apart_two : KeepsApart Example.kept :=
  prefixes_kept_apart Example.kept (by decide +kernel)

/-- After a restart the counter begins anew, and a second interface gets the /64 of the first. -/
theorem prefix_shared : ¬ KeepsApart Example.restarted := by
  rintro ⟨hs, hrun, -, happart⟩
  have hboth : handed Example.restarted {} =
      some [⟨"brlan1".toList, Example.delegated, "2001:db8:1:14::/64".toList⟩,
        ⟨"brlan2".toList, Example.delegated, "2001:db8:1:14::/64".toList⟩] := by rfl
  obtain rfl := Option.some.inj (hrun.symm.trans hboth)
  have hshared := happart _ (List.mem_cons_self ..) _
    (List.mem_cons_of_mem _ (List.mem_cons_self ..)) ⟨rfl, rfl⟩
    ⟨[0x2001, 0xdb8, 1, 0x14, 0, 0, 0, 0], rfl⟩ (by decide +kernel)
    ⟨[0x2001, 0xdb8, 1, 0x14, 0, 0, 0, 0], rfl⟩ (by decide +kernel)
  exact absurd (hshared.mp rfl) (by decide)

end LanPrefixes

end WanManager
