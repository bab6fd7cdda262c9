import WanManager.PolicyFrame

/-! # Changes of the groups' configuration

The handlers that move an interface to another group and that add a remote interface, each
one section under the lock of the data base. Both set `ConfigChanged`, which makes a group's
selection thread end, so that the monitor can start a new one. -/

namespace WanManager
open Concurrency

namespace Shared

/-- `MAX_INTERFACE_GROUP` -/
def maxInterfaceGroup : Nat := 2

/-- `REMOTE_INTERFACE_GROUP` -/
def remoteInterfaceGroup : Nat := 2

/-- `MAX_WAN_INTERFACE_ENTRY` -/
def maxWanInterfaceEntry : Nat := 32

/-- An interface comes to a group. -/
def joinGroup (i : Nat) (g : IfaceGroup) : IfaceGroup :=
  { g with configChanged := true, interfaceAvailable := g.interfaceAvailable ||| 1 <<< i }

/-- `InterfaceAvailable` without an interface: `&= ~(1<<i)` on 32 bits. -/
def availableWithout (i available : Nat) : Nat := available &&& ((2 ^ 32 - 1) ^^^ 1 <<< i)

/-- An interface leaves a group. -/
def quitGroup (i : Nat) (g : IfaceGroup) : IfaceGroup :=
  { g with configChanged := true, interfaceAvailable := availableWithout i g.interfaceAvailable }

/-- `WanIfSelectionCfg_SetParamUlongValue` for `Group` -/
def setSelectionGroup (i uValue : Nat) (s : Shared) : Shared :=
  match s.ifaces[i]? with
  | none => s
  | some d =>
    if maxInterfaceGroup < uValue then s
    else if d.selection.group = uValue then s
    else
      ((s.modifyGroup uValue (joinGroup i)).modifyGroup d.selection.group (quitGroup i)).modifyIface i
        fun d => { d with selection := { d.selection with group := uValue } }

/-- An interface as `WanMgr_IfaceData_Init`, `WanMgr_VirtIface_Init` and
`WanMgr_Remote_IfaceData_configure` leave it; PSM has the kind of connectivity check. -/
def remoteIface (check : ConnectivityCheckType) (priority : Int) : WanIface where
  selection := { priority, group := remoteInterfaceGroup }
  ifaceType := .remote
  virtIf := { ip := {
    connectivityCheckType := check
    ipv4ConnectivityStatus := .down
    ipv6ConnectivityStatus := .down
    ipv6Source := .static
    dhcp4cStatus := .unknown
    dhcp6cStatus := .unknown } }

/-- The group's part of `WanMgr_Remote_IfaceData_Update` -/
def remoteIfaceDataUpdate (i : Nat) (g : IfaceGroup) : IfaceGroup :=
  { g with
    interfaceAvailable := g.interfaceAvailable ||| 1 <<< i
    configChanged := if g.state = .deactivated then g.configChanged else true }

/-- `WanMgr_Remote_IfaceData_configure`; `priority` is the static `remotePriority`. -/
def remoteIfaceDataConfigure (check : ConnectivityCheckType) (priority : Int) (s : Shared) : Shared :=
  if s.ifaces.length < maxWanInterfaceEntry then
    let s' := s.modifyGroup remoteInterfaceGroup (remoteIfaceDataUpdate s.ifaces.length)
    { s' with ifaces := s.ifaces ++ [remoteIface check priority] }
  else s

/-! ## What they leave alone -/

theorem available_ne_zero (a i : Nat) : a ||| 1 <<< i ≠ 0 := by
  intro h
  have hbit : (a ||| 1 <<< i).testBit i = true := by
    rw [Nat.testBit_or, Nat.one_shiftLeft, Nat.testBit_two_pow_self, Bool.or_true]
  rw [h, Nat.zero_testBit] at hbit
  cases hbit

theorem ifaces_setSelectionGroup (i uValue : Nat) (s : Shared) :
    (setSelectionGroup i uValue s).ifaces.length = s.ifaces.length := by
  unfold setSelectionGroup
  split
  · rfl
  split
  · rfl
  split
  · rfl
  · simp [modifyIface]

theorem ifaces_remoteIfaceDataConfigure (check : ConnectivityCheckType) (priority : Int) (s : Shared) :
    s.ifaces.length ≤ (remoteIfaceDataConfigure check priority s).ifaces.length := by
  unfold remoteIfaceDataConfigure
  split
  · rw [List.length_append]
    exact Nat.le_add_right _ _
  · exact Nat.le_refl _

/-- A changed group of the table was there before. -/
theorem group?_modifyGroup_some {s : Shared} {inst k : Nat} {f : IfaceGroup → IfaceGroup}
    {g' : IfaceGroup} (h : (s.modifyGroup inst f).group? k = some g') :
    ∃ g, s.group? k = some g ∧ (k = inst ∧ g' = f g ∨ k ≠ inst ∧ g' = g) := by
  by_cases hk : k = inst
  · subst hk
    rw [group?_modifyGroup_self] at h
    obtain ⟨g, hg, rfl⟩ := Option.map_eq_some_iff.mp h
    exact ⟨g, hg, .inl ⟨rfl, rfl⟩⟩
  · rw [group?_modifyGroup_ne f hk] at h
    exact ⟨g', h, .inr ⟨hk, rfl⟩⟩

/-- Interface `i` with this data is moved to another group. -/
structure Moves (s : Shared) (i uValue : Nat) (d : WanIface) : Prop where
  iface : s.ifaces[i]? = some d
  supported : uValue ≤ maxInterfaceGroup
  other : d.selection.group ≠ uValue

/-- A group after an interface was moved: as before, or the one the interface came to, or the
one it left. -/
theorem group?_setSelectionGroup {i uValue k : Nat} {s : Shared} {g' : IfaceGroup}
    (h : (setSelectionGroup i uValue s).group? k = some g') :
    ∃ g, s.group? k = some g ∧ (g' = g ∨ ∃ d, s.Moves i uValue d ∧
      (k = uValue ∧ g' = joinGroup i g ∨ k = d.selection.group ∧ g' = quitGroup i g)) := by
  unfold setSelectionGroup at h
  cases hd : s.ifaces[i]? with
  | none =>
    rw [hd] at h
    exact ⟨g', h, .inl rfl⟩
  | some d =>
    simp only [hd] at h
    split at h
    · exact ⟨g', h, .inl rfl⟩
    rename_i hle
    split at h
    · exact ⟨g', h, .inl rfl⟩
    rename_i hne
    have hmoves : s.Moves i uValue d := ⟨hd, Nat.not_lt.mp hle, hne⟩
    rw [group?_modifyIface] at h
    obtain ⟨g₁, hg₁, hlast⟩ := group?_modifyGroup_some h
    obtain ⟨g, hg, hfirst⟩ := group?_modifyGroup_some hg₁
    refine ⟨g, hg, ?_⟩
    rcases hlast with ⟨rfl, rfl⟩ | ⟨-, rfl⟩
    · rcases hfirst with ⟨heq, -⟩ | ⟨-, rfl⟩
      · exact absurd heq hne
      · exact .inr ⟨d, hmoves, .inr ⟨rfl, rfl⟩⟩
    · rcases hfirst with ⟨rfl, rfl⟩ | ⟨-, rfl⟩
      · exact .inr ⟨d, hmoves, .inl ⟨rfl, rfl⟩⟩
      · exact .inl rfl

theorem group?_remoteIfaceDataConfigure {check : ConnectivityCheckType} {priority : Int} {k : Nat}
    {s : Shared} {g' : IfaceGroup}
    (h : (remoteIfaceDataConfigure check priority s).group? k = some g') :
    ∃ g, s.group? k = some g ∧ (g' = g ∨ g' = remoteIfaceDataUpdate s.ifaces.length g) := by
  unfold remoteIfaceDataConfigure at h
  split at h
  · have h' : (s.modifyGroup remoteInterfaceGroup (remoteIfaceDataUpdate s.ifaces.length)).group? k =
        some g' := by
      cases k <;> exact h
    obtain ⟨g, hg, ⟨-, hjoin⟩ | ⟨-, hsame⟩⟩ := group?_modifyGroup_some h'
    · exact ⟨g, hg, .inr hjoin⟩
    · exact ⟨g, hg, .inl hsame⟩
  · exact ⟨g', h, .inl rfl⟩

end Shared

namespace System

/-- The group has a selection thread. -/
def HasThread (w : World) (inst : Nat) : Prop :=
  ∃ t < w.policyCount, (w.policies t).Live ∧ (w.policies t).ctrl.groupInst = inst

instance (w : World) (inst : Nat) : Decidable (HasThread w inst) := by
  unfold HasThread
  infer_instance

/-- What everything else leaves alone: the threads, and what the groups' threads depend on. -/
structure KeepsGroupMarks (w w' : World) : Prop where
  failOver : w'.failOver = w.failOver
  policies : w'.policies = w.policies
  policyCount : w'.policyCount = w.policyCount
  states : w'.shared.states = w.shared.states
  marks : w'.shared.marks = w.shared.marks
  ifaces : w.shared.ifaces.length ≤ w'.shared.ifaces.length

/-- The environment moves interfaces where `admits` lets it, adds remote interfaces, and does
whatever the groups' marks do not depend on. -/
inductive ConfigStep (admits : World → Nat → Nat → Prop) : World → World → Prop
  | setGroup {w i uValue} : admits w i uValue →
      ConfigStep admits w { w with shared := w.shared.setSelectionGroup i uValue }
  | addRemote {w check priority} :
      ConfigStep admits w { w with shared := w.shared.remoteIfaceDataConfigure check priority }
  | other {w w'} : KeepsGroupMarks w w' → ConfigStep admits w w'

/-- The group an interface comes to has a thread or is not deactivated; the one it leaves has
a thread, or keeps an interface and is not deactivated. -/
def AdmitsMove (w : World) (i uValue : Nat) : Prop :=
  ∀ d, w.shared.Moves i uValue d →
    (∀ g ∈ w.shared.group? uValue, HasThread w uValue ∨ g.state ≠ .deactivated) ∧
      ∀ g ∈ w.shared.group? d.selection.group, HasThread w d.selection.group ∨
        Shared.availableWithout i g.interfaceAvailable ≠ 0 ∧ g.state ≠ .deactivated

end System
end WanManager
