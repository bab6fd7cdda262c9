import WanManager.InterfacePaths
import Mathlib.Data.List.TakeWhile

/-! # Addressing an interface by its alias

A path holds the index of an interface or its alias in brackets. What a handler finds in
either is computed here from the parts of the path, and from that when both are the same. -/

namespace WanManager
open Text

namespace InterfacePaths

/-- The parameters of a virtual interface. -/
inductive VirtIfParam where
  | status | vlanStatus | ipv4Address | ipv6Address | ipv6Prefix
  deriving DecidableEq, Repr

/-- The elements of `wanMgrIfacePublishElements` that are properties, the last three of the
old table. -/
inductive Param where
  | baseInterfaceStatus | selectionEnable | aliasName
  | virtIf (virtIfIndex : UInt32) (p : VirtIfParam)
  | v1PhyStatus | v1WanStatus | v1WanLinkStatus
  deriving DecidableEq, Repr

namespace Param

def InV1 : Param → Prop
  | v1PhyStatus | v1WanStatus | v1WanLinkStatus => True
  | _ => False

instance : DecidablePred InV1
  | v1PhyStatus | v1WanStatus | v1WanLinkStatus => .isTrue trivial
  | baseInterfaceStatus | selectionEnable | aliasName | virtIf _ _ => .isFalse id

/-- The table, as a path goes on after it. -/
def table (p : Param) : String :=
  if p.InV1 then "Device.X_RDK_WanManager.CPEInterface." else "Device.X_RDK_WanManager.Interface."

/-- The last part of the path. -/
def leaf : Param → String
  | baseInterfaceStatus => ".BaseInterfaceStatus"
  | selectionEnable => ".Selection.Enable"
  | aliasName => ".Alias"
  | virtIf _ .status => ".Status"
  | virtIf _ .vlanStatus => ".VlanStatus"
  | virtIf _ .ipv4Address => ".IP.IPv4Address"
  | virtIf _ .ipv6Address => ".IP.IPv6Address"
  | virtIf _ .ipv6Prefix => ".IP.IPv6Prefix"
  | v1PhyStatus => ".Phy.Status"
  | v1WanStatus => ".Wan.Status"
  | v1WanLinkStatus => ".Wan.LinkStatus"

/-- The path after the interface. -/
def tail : Param → String
  | virtIf j p => ".VirtualInterface." ++ j.toNat.repr ++ (virtIf j p).leaf
  | p => p.leaf

/-- The parts of the path that hold no index and no alias. -/
def parts : Param → List String
  | virtIf j p => [(virtIf j p).table, ".VirtualInterface.", (virtIf j p).leaf]
  | p => [p.table, p.leaf]

/-- Whether a name occurs in one of these parts. -/
def holds (p : Param) (name : String) : Bool := p.parts.any fun part => strstr part name

/-- The field the parameter stands for. -/
def field : Param → Field
  | baseInterfaceStatus | v1PhyStatus => .baseInterfaceStatus
  | selectionEnable => .selectionEnable
  | aliasName => .aliasName
  | virtIf _ .status | v1WanStatus => .status
  | virtIf _ .vlanStatus | v1WanLinkStatus => .vlanStatus
  | virtIf _ .ipv4Address => .ipv4Address
  | virtIf _ .ipv6Address => .ipv6Address
  | virtIf _ .ipv6Prefix => .sitePrefix

/-- Whether the element has a handler for the request. -/
def supports : Param → Request → Bool
  | _, .get | _, .subscribe => true
  | baseInterfaceStatus, .set | selectionEnable, .set | aliasName, .set => true
  | virtIf _ .status, .set | virtIf _ .vlanStatus, .set => true
  | _, .set => false

/-- The tests of a handler before the one for the field of the parameter. -/
def testsBefore (r : Request) (p : Param) : List (List String × Field) :=
  (fieldTests r).takeWhile fun e => e.2 ≠ p.field

/-- The virtual interface a request for the parameter is meant for. Subscriptions are
counted for the interface, and its own parameters are found with the first. -/
def virtIfIndex : Param → Request → Nat
  | virtIf j _, .get | virtIf j _, .set => j.toNat
  | _, _ => 1

end Param

def indexPath (index : Nat) (p : Param) : String := p.table ++ index.repr ++ p.tail

def aliasPath (aliasName : String) (p : Param) : String :=
  p.table ++ "[" ++ aliasName ++ "]" ++ p.tail

/-! ## Names in a path -/

/-- A name that no index and no bracket of a path can be part of. -/
abbrev Plain (name : String) : Prop :=
  NeverAfter (fun c => c.isDigit) '.' name.toList ∧ '[' ∉ name.toList ∧ ']' ∉ name.toList

theorem plain_fieldTests : ∀ r, ∀ e ∈ fieldTests r, ∀ name ∈ e.1, Plain name := by
  intro r
  cases r <;> decide +kernel

theorem plain_v1IfaceTable : Plain v1IfaceTable := by decide +kernel

theorem strstr_around {name before after : String} (h : Plain name)
    (hlast : before.toList.getLast? = some '.') (n : Nat) :
    strstr (before ++ n.repr ++ after) name ↔ strstr before name ∨ strstr after name := by
  have : name.toList <:+: before.toList ++ Nat.toDigits 10 n ++ after.toList ↔
      name.toList <:+: before.toList ∨ name.toList <:+: after.toList :=
    infix_around h.1 hlast Nat.toDigits_ne_nil isDigit_decimal
  simpa only [strstr, decide_eq_true_eq, String.toList_append, Nat.toList_repr] using this

theorem strstr_tail {name : String} (h : Plain name) (p : Param) :
    strstr p.tail name ↔ ∃ part ∈ p.parts.tail, strstr part name := by
  have hleaf : ∀ leaf, strstr leaf name ↔ ∃ part ∈ [leaf], strstr part name := by simp
  cases p with
  | virtIf j p =>
    change strstr (".VirtualInterface." ++ j.toNat.repr ++ (Param.virtIf j p).leaf) name ↔
      ∃ part ∈ [".VirtualInterface.", (Param.virtIf j p).leaf], strstr part name
    rw [strstr_around h (by decide)]
    simp only [List.mem_cons, List.not_mem_nil, or_false, exists_eq_or_imp, exists_eq_left]
  | _ => exact hleaf _

theorem Param.holds_iff (p : Param) (name : String) :
    p.holds name ↔ strstr p.table name ∨ ∃ part ∈ p.parts.tail, strstr part name := by
  have hparts : ∀ (head : String) parts, (head :: parts).any (fun part => strstr part name) ↔
      strstr head name ∨ ∃ part ∈ parts, strstr part name := by simp
  cases p <;> exact hparts _ _

theorem getLast?_table (p : Param) : p.table.toList.getLast? = some '.' := by
  unfold Param.table
  split <;> decide

theorem strstr_indexPath {name : String} (h : Plain name) (index : Nat) (p : Param) :
    strstr (indexPath index p) name ↔ p.holds name := by
  rw [indexPath, strstr_around h (getLast?_table p), p.holds_iff, strstr_tail h]

theorem strstr_beside {name before after : String} {a : Char} (h : a ∉ name.toList) :
    strstr (before ++ String.singleton a ++ after) name ↔ strstr before name ∨ strstr after name := by
  have : name.toList <:+: before.toList ++ a :: after.toList ↔
      name.toList <:+: before.toList ∨ name.toList <:+: after.toList := infix_beside h
  simpa [strstr] using this

theorem strstr_aliasPath {name : String} (h : Plain name) (aliasName : String) (p : Param) :
    strstr (aliasPath aliasName p) name ↔ strstr aliasName name ∨ p.holds name := by
  have hsplit : aliasPath aliasName p =
      p.table ++ String.singleton '[' ++ (aliasName ++ String.singleton ']' ++ p.tail) := by
    apply String.toList_injective
    simp [aliasPath]
  rw [hsplit, strstr_beside h.2.1, strstr_beside h.2.2, strstr_tail h, p.holds_iff]
  exact or_left_comm


/-! ## The field -/

/-- The parameters, all virtual interfaces taken for one. -/
def shapes : List Param :=
  [.baseInterfaceStatus, .selectionEnable, .aliasName, .virtIf 1 .status, .virtIf 1 .vlanStatus,
   .virtIf 1 .ipv4Address, .virtIf 1 .ipv6Address, .virtIf 1 .ipv6Prefix,
   .v1PhyStatus, .v1WanStatus, .v1WanLinkStatus]

theorem exists_shape (p : Param) : ∃ q ∈ shapes, p.holds = q.holds ∧ p.field = q.field ∧
    (p.InV1 ↔ q.InV1) ∧ ∀ r, p.supports r = q.supports r := by
  cases p with
  | virtIf j p =>
    refine ⟨.virtIf 1 p, ?_⟩
    cases p <;> exact ⟨by simp [shapes], rfl, rfl, .rfl, fun r => by cases r <;> rfl⟩
  | _ => exact ⟨_, by simp [shapes], rfl, rfl, .rfl, fun _ => rfl⟩

/-- Of the parts of a path without index and alias, the first test that finds a name is the
one for the field of the parameter. -/
theorem first_test {r : Request} {p : Param} (h : p.supports r) :
    (∀ e ∈ p.testsBefore r, ¬ e.1.any p.holds) ∧
      ∀ e ∈ fieldTests r, e.2 = p.field → e.1.any p.holds := by
  have hshapes : ∀ q ∈ shapes, ∀ r ∈ [Request.get, .set, .subscribe], q.supports r →
      (∀ e ∈ q.testsBefore r, ¬ e.1.any q.holds) ∧
        ∀ e ∈ fieldTests r, e.2 = q.field → e.1.any q.holds := by
    decide +kernel
  obtain ⟨q, hq, hholds, hfield, -, hsupports⟩ := exists_shape p
  rw [Param.testsBefore, hholds, hfield]
  rw [hsupports] at h
  exact hshapes q hq r (by cases r <;> simp) h

/-- The branch for the field of the parameter, if the handler has one. -/
def Param.branch (p : Param) (r : Request) : Option Field :=
  ((fieldTests r).find? fun e => e.2 = p.field).map (·.2)

theorem fieldOf_indexPath {r : Request} {p : Param} (h : p.supports r) (index : Nat) :
    fieldOf r (indexPath index p) = p.branch r := by
  have hparts : ∀ e ∈ fieldTests r, e.1.any (strstr (indexPath index p)) = e.1.any p.holds := by
    intro e he
    rw [Bool.eq_iff_iff, List.any_eq_true, List.any_eq_true]
    exact exists_congr fun n => and_congr_right fun hn =>
      strstr_indexPath (plain_fieldTests r e he n hn) index p
  rw [fieldOf, find?_congr hparts, Param.branch, find?_eq_of_first]
  · simpa [Param.testsBefore] using (first_test h).1
  · simpa using (first_test h).2

/-- An alias keeps the field when no name tested before that of the field occurs in it. -/
theorem fieldOf_aliasPath_iff {r : Request} {p : Param} (h : p.supports r) (aliasName : String) :
    fieldOf r (aliasPath aliasName p) = p.branch r ↔
      ∀ e ∈ p.testsBefore r, ∀ name ∈ e.1, ¬ strstr aliasName name := by
  have hparts : ∀ e ∈ fieldTests r, e.1.any (strstr (aliasPath aliasName p)) =
      ((e.1.any (strstr aliasName) || e.1.any p.holds) || decide (e.2 = p.field)) := by
    intro e he
    have hor : e.1.any (strstr (aliasPath aliasName p)) =
        (e.1.any (strstr aliasName) || e.1.any p.holds) := by
      rw [Bool.eq_iff_iff, Bool.or_eq_true, List.any_eq_true, List.any_eq_true, List.any_eq_true,
        ← exists_or]
      refine exists_congr fun n => ?_
      rw [← and_or_left]
      exact and_congr_right fun hn => strstr_aliasPath (plain_fieldTests r e he n hn) aliasName p
    by_cases hfield : e.2 = p.field
    · simp [hor, hfield, (first_test h).2 e he hfield]
    · simp [hor, hfield]
  have hnodup : ((fieldTests r).map (·.2)).Nodup := by cases r <;> decide
  have hbefore : ∀ e, (fun e : List String × Field => !decide (e.2 = p.field)) e =
      decide (e.2 ≠ p.field) := by simp
  rw [fieldOf, find?_congr hparts, Param.branch, find?_or_eq hnodup, funext hbefore]
  refine forall₂_congr fun e he => ?_
  simp [(first_test h).1 e he]

/-! ## The index -/

theorem holds_v1IfaceTable (p : Param) : p.holds v1IfaceTable ↔ p.InV1 := by
  have hshapes : ∀ q ∈ shapes, q.holds v1IfaceTable ↔ q.InV1 := by decide +kernel
  obtain ⟨q, hq, hholds, -, hv1, -⟩ := exists_shape p
  rw [hholds, hv1]
  exact hshapes q hq

theorem leaf_eq (p : Param) : ∃ rest, p.leaf.toList = '.' :: rest := by
  cases p with
  | virtIf j p => cases p <;> exact ⟨_, String.toList_ofList⟩
  | _ => exact ⟨_, String.toList_ofList⟩

theorem tail_virtIf (j : UInt32) (p : VirtIfParam) : (Param.virtIf j p).tail.toList =
    ".VirtualInterface.".toList ++ (decimal j.toNat ++ (Param.virtIf j p).leaf.toList) := by
  change (".VirtualInterface." ++ j.toNat.repr ++ (Param.virtIf j p).leaf).toList = _
  rw [String.toList_append, String.toList_append, Nat.toList_repr, List.append_assoc]

theorem tail_eq (p : Param) : ∃ rest, p.tail.toList = '.' :: rest := by
  cases p with
  | virtIf j p =>
    obtain ⟨rest, hrest⟩ : ∃ rest, ".VirtualInterface.".toList = '.' :: rest :=
      ⟨_, String.toList_ofList⟩
    rw [tail_virtIf, hrest]
    exact ⟨_, rfl⟩
  | _ => exact leaf_eq _

theorem toList_indexPath (index : Nat) (p : Param) :
    (indexPath index p).toList = p.table.toList ++ (decimal index ++ p.tail.toList) := by
  rw [indexPath, String.toList_append, String.toList_append, Nat.toList_repr, List.append_assoc]

theorem toList_aliasPath (aliasName : String) (p : Param) :
    (aliasPath aliasName p).toList =
      p.table.toList ++ '[' :: (aliasName.toList ++ ']' :: p.tail.toList) := by
  simp [aliasPath]

/-- Scanning goes on after the table. -/
theorem sscanf_indexPath (format : List Conversion) {index : Nat} (p : Param) {table : String}
    (h : p.table = table) :
    sscanf (.lit table :: .int :: format) (indexPath index p).toList =
      .int (ofDigits false (decimal index)) :: sscanf format p.tail.toList := by
  obtain ⟨rest, hrest⟩ := tail_eq p
  rw [toList_indexPath, h, sscanf_lit, hrest, sscanf_int_decimal format rest (by decide)]

theorem sscanf_tail_dot (p : Param) : sscanf [.lit "."] p.tail.toList = [] := by
  obtain ⟨rest, hrest⟩ := tail_eq p
  rw [hrest]
  exact sscanf_lit "." [] rest

theorem sscanf_tail_virtIf (p : Param) :
    sscanf [.lit ".VirtualInterface.", .int, .lit "."] p.tail.toList =
      match p with
      | .virtIf j _ => [.int (ofDigits false (decimal j.toNat))]
      | _ => [] := by
  cases p with
  | virtIf j p =>
    obtain ⟨rest, hrest⟩ := leaf_eq (.virtIf j p)
    rw [tail_virtIf, sscanf_lit, hrest, sscanf_int_decimal _ rest (by decide)]
    exact congrArg _ (sscanf_lit "." [] rest)
  | _ => exact sscanf_lit_eq_nil _ (by decide)

theorem scanIndices_indexPath (r : Request) {index : Nat} (h : index < 2 ^ 32) (p : Param) :
    scanIndices r (indexPath index p) = (index, p.virtIfIndex r) := by
  have hindex := ofDigits_decimal h
  have hv1 := (strstr_indexPath plain_v1IfaceTable index p).trans (holds_v1IfaceTable p)
  -- a get or a set of a parameter that is not in the old table
  have hget : ¬ p.InV1 → ∀ r, format r = format .get → r ≠ .subscribe →
      scanIndices r (indexPath index p) = (index, p.virtIfIndex r) := by
    intro hp r hr hne
    have htable : p.table = "Device.X_RDK_WanManager.Interface." := if_neg hp
    unfold scanIndices
    rw [if_neg (fun h => hp (hv1.mp h)), hr, format, sscanf_indexPath _ p htable, sscanf_tail_virtIf]
    cases p with
    | virtIf j p =>
      have hj := ofDigits_decimal j.toNat_lt
      cases r <;> simp [hindex, hj, Param.virtIfIndex] at hne ⊢
    | _ => simp [hindex, Param.virtIfIndex]
  by_cases hp : p.InV1
  · have htable : p.table = "Device.X_RDK_WanManager.CPEInterface." := if_pos hp
    have hone : p.virtIfIndex r = 1 := by
      cases p <;> first | rfl | exact hp.elim
    unfold scanIndices
    rw [if_pos (hv1.mpr hp), v1Format, sscanf_indexPath _ p htable, sscanf_tail_dot]
    simp [hindex, hone]
  · cases r with
    | get => exact hget hp _ rfl (by decide)
    | set => exact hget hp _ rfl (by decide)
    | subscribe =>
      have htable : p.table = "Device.X_RDK_WanManager.Interface." := if_neg hp
      have hone : p.virtIfIndex .subscribe = 1 := by cases p <;> rfl
      unfold scanIndices
      rw [if_neg (fun h => hp (hv1.mp h)), format, sscanf_indexPath _ p htable, sscanf_tail_dot]
      simp [hindex, hone]

/-- Two tables of which neither is the beginning of the other. -/
theorem not_prefix_table {table table' : List Char} (rest : List Char) (h : ¬ table <+: table')
    (h' : ¬ table' <+: table) : ¬ table <+: table' ++ rest := by
  intro hpre
  obtain h1 | h1 := List.prefix_or_prefix_of_prefix hpre (List.prefix_append table' rest)
  · exact h h1
  · exact h' h1

/-- The bracket is no number. -/
theorem scanIndices_aliasPath (r : Request) (aliasName : String) (p : Param) :
    scanIndices r (aliasPath aliasName p) = (0, 1) := by
  have hv1 := (strstr_aliasPath plain_v1IfaceTable aliasName p)
  have hbracket : ∀ format rest, sscanf (.int :: format) ('[' :: rest) = [] := by
    intro format rest
    rw [sscanf, scanInt_eq_none rest (by decide) (by decide) (by decide)]
  -- with either format nothing is read
  have hnil : sscanf (if strstr (aliasPath aliasName p) v1IfaceTable then v1Format else format r)
      (aliasPath aliasName p).toList = [] := by
    rw [toList_aliasPath]
    by_cases hp : p.InV1
    · have htable : p.table = "Device.X_RDK_WanManager.CPEInterface." := if_pos hp
      rw [if_pos (hv1.mpr (.inr ((holds_v1IfaceTable p).mpr hp))), v1Format, htable, sscanf_lit,
        hbracket]
    · have htable : p.table = "Device.X_RDK_WanManager.Interface." := if_neg hp
      rw [htable]
      split
      · exact sscanf_lit_eq_nil _ (not_prefix_table _ (by decide) (by decide))
      · cases r <;> rw [format, sscanf_lit, hbracket]
  unfold scanIndices
  rw [hnil]

/-- The part of an alias path that is searched for an alias. -/
def scannedText (aliasName : String) (p : Param) : String :=
  String.ofList ((("[" ++ aliasName ++ "]" ++ p.tail).toList.takeWhile fun c => !isBlank c).take 63)

theorem scanAliasName_aliasPath (aliasName : String) (p : Param) :
    scanAliasName (aliasPath aliasName p) = if p.InV1 then "" else scannedText aliasName p := by
  by_cases hp : p.InV1
  · have htable : p.table = "Device.X_RDK_WanManager.CPEInterface." := if_pos hp
    rw [if_pos hp, scanAliasName, toList_aliasPath, htable,
      sscanf_lit_eq_nil _ (not_prefix_table _ (by decide) (by decide))]
  · have htable : p.table = "Device.X_RDK_WanManager.Interface." := if_neg hp
    have hword : (sscanf [.word 63, .lit "."] ('[' :: (aliasName.toList ++ ']' :: p.tail.toList))).head? =
        some (.word (String.ofList
          ((('[' :: (aliasName.toList ++ ']' :: p.tail.toList)).takeWhile fun c => !isBlank c).take 63))) :=
      sscanf_word [.lit "."] (by decide) (by decide)
    obtain ⟨rest, hrest⟩ := List.head?_eq_some_iff.mp hword
    rw [if_neg hp, scanAliasName, toList_aliasPath, htable, sscanf_lit, hrest]
    simp [scannedText]

theorem scannedText_ne (aliasName : String) (p : Param) : scannedText aliasName p ≠ "" := by
  intro h
  have hnil := congrArg String.toList h
  have hblank : isBlank '[' = false := by decide
  simp [scannedText, hblank] at hnil

theorem target_indexPath {r : Request} {p : Param} (hp : p.supports r) (ifaces : List DmlWanIface)
    {index : Nat} (hpos : 0 < index) (hlt : index < 2 ^ 32) :
    target r ifaces (indexPath index p) = .ok ⟨index, p.virtIfIndex r, p.branch r⟩ := by
  have hne : index ≠ 0 := by omega
  simp [target, scanIndices_indexPath r hlt p, hne, fieldOf_indexPath hp]

/-- The number an alias path is resolved to. -/
def aliasIndex (ifaces : List DmlWanIface) (aliasName : String) (p : Param) : Nat :=
  if p.InV1 then 0 else lastMatch (fun d => strstr (scannedText aliasName p) d.aliasName) ifaces

theorem target_aliasPath (r : Request) (p : Param) {ifaces : List DmlWanIface}
    (h : ∀ d ∈ ifaces, d.aliasName ≠ "") (aliasName : String) :
    target r ifaces (aliasPath aliasName p) =
      if aliasIndex ifaces aliasName p = 0 then .error .invalidInput
      else .ok ⟨aliasIndex ifaces aliasName p, 1, fieldOf r (aliasPath aliasName p)⟩ := by
  have hindex : getIfaceIndexByAliasName ifaces (scanAliasName (aliasPath aliasName p)) =
      aliasIndex ifaces aliasName p := by
    rw [scanAliasName_aliasPath, aliasIndex]
    by_cases hp : p.InV1
    · simp [hp, getIfaceIndexByAliasName]
    · rw [if_neg hp, if_neg hp, getIfaceIndexByAliasName, if_neg (scannedText_ne aliasName p)]
      refine lastMatch_congr fun d hd => ?_
      simp [h d hd]
  simp [target, scanIndices_aliasPath, hindex]

/-! ## The two ways to address an interface -/

/-- The interface table: every interface has an alias of its own. -/
structure InterfaceTable where
  ifaces : List DmlWanIface
  length_lt : ifaces.length < 2 ^ 32
  aliasName_ne : ∀ d ∈ ifaces, d.aliasName ≠ ""
  nodup_aliasName : (ifaces.map (·.aliasName)).Nodup

/-- The position of the interface with this alias. -/
def InterfaceTable.find (t : InterfaceTable) (aliasName : String) : Option Nat :=
  t.ifaces.findIdx? fun d => d.aliasName = aliasName

/-- A request through an alias acts on what the request through the index acts on; an alias
that no interface has is refused. -/
def AliasAgrees (t : InterfaceTable) (r : Request) (p : Param) (aliasName : String) : Prop :=
  match t.find aliasName with
  | some i => target r t.ifaces (aliasPath aliasName p) = target r t.ifaces (indexPath (i + 1) p)
  | none => target r t.ifaces (aliasPath aliasName p) = .error .invalidInput

/-- The alias itself is found in the text, and no alias further on in the table; the
parameter is one of the first virtual interface, and no name that is tested before its own
occurs in the alias. An alias that is not in the table has to leave every other unfound. -/
def AliasReaches (t : InterfaceTable) (r : Request) (p : Param) (aliasName : String) : Prop :=
  match t.find aliasName with
  | some i =>
    ¬ p.InV1 ∧ strstr (scannedText aliasName p) aliasName ∧
      (∀ d ∈ t.ifaces.drop (i + 1), ¬ strstr (scannedText aliasName p) d.aliasName) ∧
      p.virtIfIndex r = 1 ∧ ∀ e ∈ p.testsBefore r, ∀ name ∈ e.1, ¬ strstr aliasName name
  | none => p.InV1 ∨ ∀ d ∈ t.ifaces, ¬ strstr (scannedText aliasName p) d.aliasName

theorem aliasIndex_eq_zero {ifaces : List DmlWanIface} {aliasName : String} {p : Param} :
    aliasIndex ifaces aliasName p = 0 ↔
      p.InV1 ∨ ∀ d ∈ ifaces, ¬ strstr (scannedText aliasName p) d.aliasName := by
  unfold aliasIndex
  split <;> simp_all [lastMatch_eq_zero]

theorem aliasIndex_eq_succ {ifaces : List DmlWanIface} {aliasName : String} {p : Param} {i : Nat}
    (hi : i < ifaces.length) (halias : ifaces[i].aliasName = aliasName) :
    aliasIndex ifaces aliasName p = i + 1 ↔
      ¬ p.InV1 ∧ strstr (scannedText aliasName p) aliasName ∧
        ∀ d ∈ ifaces.drop (i + 1), ¬ strstr (scannedText aliasName p) d.aliasName := by
  unfold aliasIndex
  split
  · simp_all
  · rw [lastMatch_eq_succ hi, halias]
    simp_all

theorem target_eq_iff {t : InterfaceTable} {r : Request} {p : Param} (hp : p.supports r)
    {aliasName : String} {i : Nat} (hfind : t.find aliasName = some i) :
    target r t.ifaces (aliasPath aliasName p) = target r t.ifaces (indexPath (i + 1) p) ↔
      aliasIndex t.ifaces aliasName p = i + 1 ∧ p.virtIfIndex r = 1 ∧
        fieldOf r (aliasPath aliasName p) = p.branch r := by
  obtain ⟨hi, -⟩ := List.findIdx?_eq_some_iff_getElem.mp hfind
  have hlt := t.length_lt
  have hindex : i + 1 < 2 ^ 32 := by omega
  rw [target_aliasPath r p t.aliasName_ne, target_indexPath hp t.ifaces (Nat.succ_pos i) hindex]
  by_cases hzero : aliasIndex t.ifaces aliasName p = 0
  · simp [hzero]
  · simp [hzero, eq_comm (a := p.virtIfIndex r)]

theorem aliasAgrees_iff (t : InterfaceTable) (r : Request) (p : Param) (hp : p.supports r)
    (aliasName : String) : AliasAgrees t r p aliasName ↔ AliasReaches t r p aliasName := by
  unfold AliasAgrees AliasReaches
  cases hfind : t.find aliasName with
  | none =>
    rw [target_aliasPath r p t.aliasName_ne, ← aliasIndex_eq_zero]
    split <;> simp_all
  | some i =>
    obtain ⟨hi, halias, -⟩ := List.findIdx?_eq_some_iff_getElem.mp hfind
    have hsucc := aliasIndex_eq_succ (p := p) hi (by simpa using halias)
    simp only [target_eq_iff hp hfind, hsucc, fieldOf_aliasPath_iff hp, and_assoc]

/-! Where the alias reaches its interface, every handler does through it what it does through the index. -/

section Handlers

variable {t : InterfaceTable} {r : Request} {p : Param} {aliasName : String} {i : Nat}

theorem AliasAgrees.target (h : AliasAgrees t r p aliasName) (hfind : t.find aliasName = some i) :
    target r t.ifaces (aliasPath aliasName p) = target r t.ifaces (indexPath (i + 1) p) := by
  rwa [AliasAgrees, hfind] at h

/-- A get is answered the same. -/
theorem interfaceGetHandler_aliasPath (h : AliasAgrees t .get p aliasName)
    (hfind : t.find aliasName = some i) :
    interfaceGetHandler t.ifaces (some (aliasPath aliasName p)) =
      interfaceGetHandler t.ifaces (some (indexPath (i + 1) p)) := by
  unfold interfaceGetHandler
  simp only [h.target hfind]

/-- What a set writes and publishes, whatever the name under which it does. -/
def SetEffect.unnamed (e : SetEffect) : DmlWanIface × List RbusValue × List (String × String) :=
  (e.iface, e.published.map (·.2), e.psm)

/-- The name is only that of the event. -/
theorem unnamed_writeField (d : DmlWanIface) (name name' : String) (t : Target) (value : RbusValue) :
    (writeField d name t value).map (·.map SetEffect.unnamed) =
      (writeField d name' t value).map (·.map SetEffect.unnamed) := by
  have htwice (subscribed : Bool) (index : Nat) (suffix text : String) :
      (publishTwice subscribed name index suffix text).map (·.2) =
        (publishTwice subscribed name' index suffix text).map (·.2) := by
    cases subscribed <;> rfl
  unfold writeField
  split
  · simp [Except.map, SetEffect.unnamed, htwice]
  · cases virtIf? d t.virtIfIndex <;> simp [Except.map, SetEffect.unnamed, htwice]
  · cases virtIf? d t.virtIfIndex <;> simp [Except.map, SetEffect.unnamed, htwice]
  · next enable => cases hsub : decide (0 < d.sub.wanEnableSub) <;> simp_all [Except.map, SetEffect.unnamed]
  all_goals rfl

/-- A set writes the same, and publishes the same. -/
theorem interfaceSetHandler_aliasPath (h : AliasAgrees t .set p aliasName)
    (hfind : t.find aliasName = some i)
    (value : RbusValue) :
    (interfaceSetHandler t.ifaces value (some (aliasPath aliasName p))).map
        (·.map (·.map SetEffect.unnamed)) =
      (interfaceSetHandler t.ifaces value (some (indexPath (i + 1) p))).map
        (·.map (·.map SetEffect.unnamed)) := by
  unfold interfaceSetHandler
  simp only [h.target hfind]
  split
  · rfl
  · next t' _ =>
    split
    · next d _ =>
      have hsome (x : Option (Except RbusError SetEffect)) :
          (x.map (·.map some)).map (·.map (·.map SetEffect.unnamed)) =
            (x.map (·.map SetEffect.unnamed)).map (·.map some) := by
        rcases x with _ | _ | _ <;> rfl
      rw [hsome, hsome, unnamed_writeField d _ (indexPath (i + 1) p)]
    · rfl

/-- A subscription is counted for the same. -/
theorem dmlPublishEventHandler_aliasPath (h : AliasAgrees t .subscribe p aliasName)
    (hfind : t.find aliasName = some i) (action : SubAction) :
    dmlPublishEventHandler t.ifaces action (some (aliasPath aliasName p)) =
      dmlPublishEventHandler t.ifaces action (some (indexPath (i + 1) p)) := by
  unfold dmlPublishEventHandler
  simp only [h.target hfind]

end Handlers

/-- Two interfaces, the alias of the first part of that of the second. -/
def twoAliases : InterfaceTable where
  ifaces := [{ aliasName := "WAN" }, { aliasName := "WANOE" }]
  length_lt := by decide
  aliasName_ne := by decide
  nodup_aliasName := by decide

theorem aliasAgrees_twoAliases : AliasAgrees twoAliases .get .selectionEnable "WANOE" :=
  (aliasAgrees_iff twoAliases .get .selectionEnable rfl "WANOE").mpr (by
    have hfind : twoAliases.find "WANOE" = some 1 := by decide
    simp only [AliasReaches, hfind]
    decide +kernel)

/-- The alias path of the second virtual interface reaches the first one. -/
theorem second_virtIf_not_reached :
    ¬ ∀ t r p aliasName, Param.supports p r → AliasAgrees t r p aliasName := by
  intro h
  have hagrees := h twoAliases .get (.virtIf 2 .status) "WAN" rfl
  have hfind : twoAliases.find "WAN" = some 0 := by decide
  rw [AliasAgrees, hfind] at hagrees
  exact absurd ((target_eq_iff rfl hfind).mp hagrees).2.1 (by decide)

end InterfacePaths
end WanManager
