import WanManager.MachineTicks
import WanManager.Concurrency.Labelled

/-! # A change of the networking mode

`DeviceNwModeChanged` is one flag for all interface state machines, and the machine that reads it
takes it back. A machine is told of a change by its next tick if no other machine ticks between the
last change and that tick, and only then. -/

namespace WanManager
open Concurrency

namespace InterfaceSm

/-! ## The leased states -/

/-- The tests of a leased state that come before the one for the networking mode. -/
def takenDown (st : WanState) (s : Vism) : Bool :=
  match st with
  | .ipv4Leased =>
    let s := monitorDhcpApps (joinDhcpv6 s)
    leasedInterfaceDown s || (s.virtIf.ip.ipv4Status = .down || vlanDown s || pppNotUp s ||
      refreshDropsIpv4 s)
  | .ipv6Leased =>
    let s := monitorDhcpApps (joinDhcpv4 s)
    leasedInterfaceDown s || (s.virtIf.ip.ipv6Status = .down || vlanDown s || pppNotUp s ||
      refreshDropsIpv6 s)
  | .dualStackActive =>
    leasedInterfaceDown s || (vlanDown s || pppNotUp s) ||
      (s.virtIf.ip.ipv4Status = .down || refreshDropsIpv4 s)
  | .maptActive => leasedInterfaceDown s
  | _ => false

theorem leavesActive_fixed : Fixed leavesActive where
  vlan _ _ := rfl
  ppp _ _ := rfl
  ip _ _ := rfl
  map _ _ := rfl
  status _ _ := rfl
  accounts _ _ _ _ _ := rfl
  setUps _ _ _ _ _ _ := rfl

theorem takes_ipv4Leased {s : Vism} (h : takenDown .ipv4Leased s = false) :
    Takes .standbyDeconfigIps wanStateIpv4Leased s ↔ leavesActive s = true := by
  have hsame : leavesActive (monitorDhcpApps (joinDhcpv6 s)) = leavesActive s :=
    (leavesActive_fixed.linkBlind.monitorDhcpApps _).trans (leavesActive_fixed.linkBlind.joinDhcpv6 s)
  simp only [takenDown, Bool.or_eq_false_iff] at h
  rw [wanStateIpv4Leased, takes_act, takes_act, takes_self, ← hsame]
  generalize monitorDhcpApps (joinDhcpv6 s) = u at h
  obtain ⟨hup, hlease⟩ := h
  by_cases hleave : leavesActive u = true
  · simp [hup, hlease, hleave]
  · simp [takes_ite, hup, hlease, hleave, leaseIpv6, maptSwitchedOn, takes_self, takes_act]

theorem takes_ipv6Leased {s : Vism} (h : takenDown .ipv6Leased s = false) :
    Takes .standbyDeconfigIps wanStateIpv6Leased s ↔ leavesActive s = true := by
  have hsame : leavesActive (monitorDhcpApps (joinDhcpv4 s)) = leavesActive s :=
    (leavesActive_fixed.linkBlind.monitorDhcpApps _).trans (leavesActive_fixed.linkBlind.joinDhcpv4 s)
  simp only [takenDown, Bool.or_eq_false_iff] at h
  rw [wanStateIpv6Leased, takes_act, takes_act, takes_self, ← hsame]
  generalize monitorDhcpApps (joinDhcpv4 s) = u at h
  obtain ⟨hup, hlease⟩ := h
  by_cases hleave : leavesActive u = true
  · simp [hup, hlease, hleave]
  · simp [takes_ite, hup, hlease, hleave, maptOffered, maptSwitchedOn, takes_self, takes_act]

theorem takes_dualStackActive {s : Vism} (h : takenDown .dualStackActive s = false) :
    Takes .standbyDeconfigIps wanStateDualStackActive s ↔ leavesActive s = true := by
  simp only [takenDown, Bool.or_eq_false_iff] at h
  obtain ⟨⟨hup, hlinks⟩, hlease⟩ := h
  rw [wanStateDualStackActive, takes_self]
  by_cases hleave : leavesActive s = true
  · simp [hup, hlinks, hlease, hleave]
  · simp [takes_ite, hup, hlinks, hlease, hleave, dualStackMapt, monitorAndKeep, takes_self, takes_act]

theorem takes_maptActive {s : Vism} (h : takenDown .maptActive s = false) :
    Takes .standbyDeconfigIps wanStateMaptActive s ↔ leavesActive s = true := by
  have hup : leasedInterfaceDown s = false := h
  rw [wanStateMaptActive, takes_self]
  by_cases hleave : leavesActive s = true
  · simp [hup, hleave]
  · simp [takes_ite, hup, hleave, monitorAndKeep, takes_act]

/-- A leased machine that nothing takes down leaves its state for the networking mode. -/
theorem takes_standbyDeconfigIps {st : WanState} (hst : leased st = true) {s : Vism}
    (h : takenDown st s = false) :
    Takes .standbyDeconfigIps (wanState st) s ↔ leavesActive s = true := by
  cases st with
  | ipv4Leased => exact takes_ipv4Leased h
  | ipv6Leased => exact takes_ipv6Leased h
  | dualStackActive => exact takes_dualStackActive h
  | maptActive => exact takes_maptActive h
  | vlanConfiguring | pppConfiguring | validatingWan | obtainingIpAddresses | refreshingWan
  | deconfiguringWan | standby | exit => cases hst

/-- No other condition takes the machine down: the tests before the one for the mode fail, and
its interface is still the active one. -/
structure Undisturbed (st : WanState) (s : Vism) : Prop where
  keeps : takenDown st (prepared st s) = false
  active : s.selection.status = .active

instance (st : WanState) (s : Vism) : Decidable (Undisturbed st s) :=
  decidable_of_iff (takenDown st (prepared st s) = false ∧ s.selection.status = .active)
    ⟨fun h => ⟨h.1, h.2⟩, fun h => ⟨h.1, h.2⟩⟩

/-- The tick of an undisturbed machine gives up its addresses if it finds the flag. -/
theorem takes_iff_flag {st : WanState} (hst : leased st = true) {s : Vism}
    (hs : s.phase = .running st) (h : Undisturbed st s) :
    Takes .standbyDeconfigIps vismTick s ↔ s.config.deviceNwModeChanged = true := by
  have hleave : leavesActive (prepared st s) =
      (s.selection.status != .active || s.config.deviceNwModeChanged) := rfl
  rw [takes_vismTick hs, takes_standbyDeconfigIps hst h.keeps, hleave, h.active]
  simp

/-! ## The flag -/

theorem flag_fixedAll : FixedAll fun s => s.config.deviceNwModeChanged where
  virtIf _ _ := rfl
  accounts _ _ _ _ _ _ := rfl
  rescan _ := rfl

/-- A tick takes the flag back, whatever its state does with it. -/
theorem flag_vismTick {st : WanState} {s : Vism} (hs : s.phase = .running st) :
    (vismTick.run s).2.config.deviceNwModeChanged = false := by
  rw [run_vismTick_running hs]
  exact flag_fixedAll.wanState (fun _ => rfl) st (prepared st s)

theorem flag_vismStart {s : Vism} (hs : s.phase = .created) :
    (vismTick.run s).2.config.deviceNwModeChanged = s.config.deviceNwModeChanged := by
  rw [run_vismTick_created hs]
  exact flag_fixedAll.wanTransitionStart s

end InterfaceSm

/-! ## The system -/

namespace NetworkingMode
open InterfaceSm WanManager.System

/-- What happens to the machines: the mode is changed, a machine makes its first transition or
one iteration of its loop, or anything else in the program. -/
inductive Event where
  | modeChanged
  | started (t : Nat)
  | ticked (t : Nat)
  | other
  deriving DecidableEq, Repr

def flag (w : World) : Bool := w.shared.config.deviceNwModeChanged

/-- The bus event for the networking mode, if it names another mode than before. -/
def modeChanged (w : World) : World :=
  { w with shared := { w.shared with
      config := { w.shared.config with deviceNwModeChanged := true } } }

/-- Everything else keeps the threads that run, and does not touch the flag. -/
structure Others (w w' : World) : Prop where
  flag : flag w' = flag w
  machines : KeepsMachines w w'

def Steps : Event → World → World → Prop
  | .modeChanged, w, w' => w' = modeChanged w
  | .started t, w, w' => (w.visms t).phase = .created ∧ w' = tick t w
  | .ticked t, w, w' => (∃ s st, machine t w = some s ∧ s.phase = .running st) ∧ w' = tick t w
  | .other, w, w' => Others w w'

def system : Labelled Event World := ⟨Steps⟩

/-- What has happened since the last change of the mode. -/
def sinceChange (es : List Event) : List Event := es.takeWhile (· != .modeChanged)

/-- Some machine has ticked since the last change of the mode. -/
def Ticked (es : List Event) : Prop := ∃ u, .ticked u ∈ sinceChange es

/-! ## What a step does -/

theorem flag_tick {t : Nat} {w : World} {s : Vism} (h : machine t w = some s) :
    flag (tick t w) = (vismTick.run s).2.config.deviceNwModeChanged := by
  rw [flag, (tick_machine h).2]

/-- The first transition of a machine leaves the flag alone. -/
theorem flag_started {t : Nat} {w : World} (h : (w.visms t).phase = .created) :
    flag (tick t w) = flag w := by
  cases hs : machine t w with
  | none => rw [flag, flag, (tick_of_not_machine hs).1]
  | some s => rw [flag_tick hs, flag_vismStart ((phase_machine hs).trans h), config_machine hs, flag]

/-- A machine that runs is where it was, unless it ticks itself. -/
theorem step_keeps {t : Nat} {st : WanState} {e : Event} {w w' : World} (he : e ≠ .ticked t)
    (h : (w.visms t).phase = .running st) (hstep : system.step e w w') :
    (w'.visms t).phase = .running st := by
  cases e with
  | modeChanged =>
    have hw : w' = modeChanged w := hstep
    rw [hw]
    exact h
  | started u =>
    obtain ⟨hcreated, rfl⟩ := hstep
    have hne : t ≠ u := by
      intro htu
      rw [htu, hcreated] at h
      cases h
    rwa [visms_tick_ne hne]
  | ticked u =>
    obtain ⟨-, rfl⟩ := hstep
    have hne : t ≠ u := fun htu => he (htu ▸ rfl)
    rwa [visms_tick_ne hne]
  | other => exact hstep.machines.phase h

/-- After a change the flag is set until some machine ticks. -/
theorem flag_run {w w' : World} {es : List Event} (hr : system.Run (modeChanged w) es w') :
    flag w' = true ↔ ¬ Ticked es := by
  induction hr with
  | nil => simp [flag, modeChanged, Ticked, sinceChange]
  | @cons u v e es _ he ih =>
    cases e with
    | modeChanged =>
      have hv : v = modeChanged u := he
      simp [hv, flag, modeChanged, Ticked, sinceChange]
    | started t =>
      obtain ⟨hcreated, rfl⟩ := he
      have hticked : Ticked (.started t :: es) ↔ Ticked es := by simp [Ticked, sinceChange]
      rw [flag_started hcreated, ih, hticked]
    | ticked t =>
      obtain ⟨⟨s, st, hs, hphase⟩, rfl⟩ := he
      have hticked : Ticked (.ticked t :: es) := ⟨t, by simp [sinceChange]⟩
      simp [flag_tick hs, flag_vismTick hphase, hticked]
    | other =>
      have hticked : Ticked (.other :: es) ↔ Ticked es := by simp [Ticked, sinceChange]
      rw [he.flag, ih, hticked]

/-! ## Who is told -/

/-- In a run since a change of the mode that found the machine `t` with a lease, and in which it
has not ticked yet: its next tick, if nothing else takes the machine down, passes through
`wan_transition_standby_deconfig_ips` exactly if no machine has ticked since the last change. -/
theorem told_iff {w w' : World} {es : List Event} {t : Nat} {st : WanState} {s : Vism}
    (hphase : (w.visms t).phase = .running st) (hst : leased st = true)
    (hr : system.Run (modeChanged w) es w') (hnext : .ticked t ∉ es) (hs : machine t w' = some s)
    (hkeep : Undisturbed st s) : Takes .standbyDeconfigIps vismTick s ↔ ¬ Ticked es := by
  have hwait : ∀ e ∈ es, e ≠ .ticked t := fun e he heq => hnext (heq ▸ he)
  have hphase' : (w'.visms t).phase = .running st :=
    hr.invariant hwait hphase fun _ _ _ => step_keeps
  have hflag : s.config.deviceNwModeChanged = flag w' := by rw [config_machine hs, flag]
  rw [takes_iff_flag hst ((phase_machine hs).trans hphase') hkeep, hflag, flag_run hr]

/-! ## Two machines on one active interface -/

namespace Example

/-- A tick of a machine that runs and finds its interface. -/
def ticks (t : Nat) : system.Move where
  event := .ticked t
  edit := tick t
  ready w := ((machine t w).map fun s => runs s.phase).getD false
  allowed _ h := ⟨exists_running h, rfl⟩

def starts (t : Nat) : system.Move where
  event := .started t
  edit := tick t
  ready w := (w.visms t).phase == .created
  allowed w h := ⟨by simpa using h, rfl⟩

def creates : system.Move where
  event := .other
  edit := createTwo
  ready w := (w.visms 0).phase == .absent && (w.visms 1).phase == .absent
  allowed w h := by
    simp only [Bool.and_eq_true, beq_iff_eq] at h
    exact ⟨rfl, keeps_createTwo h.1 h.2⟩

/-- Both virtual interfaces get an IPv4 lease. -/
def leases : system.Move where
  event := .other
  edit := onBoth fun v => { v with ip := { v.ip with ipv4Status := .up } }
  ready _ := true
  allowed w _ := ⟨rfl, keeps_onBoth _ w⟩

/-- An active interface with two virtual interfaces. -/
def start : World where
  shared := { ifaces := [{ baseInterfaceStatus := .up, selection := { status := .active },
                           moreVirtIfs := [{}] }] }

def script : List system.Move :=
  [creates, starts 0, starts 1, ticks 0, ticks 1, ticks 0, ticks 1, ticks 0, ticks 1, leases,
   ticks 0, ticks 1]

/-- Both machines hold their lease. -/
def both : World := system.play script start

theorem both_run : system.Run start (system.events script) both := .play (by decide +kernel)

end Example

/-- Right after a change the first machine that ticks is told. -/
theorem told_first :
    Takes .standbyDeconfigIps vismTick ((machine 0 (modeChanged Example.both)).getD {}) := by
  have hphase : (Example.both.visms 0).phase = .running .ipv4Leased := by decide +kernel
  have hkeep : Undisturbed .ipv4Leased ((machine 0 (modeChanged Example.both)).getD {}) := by
    decide +kernel
  exact (told_iff hphase rfl .nil List.not_mem_nil (by decide +kernel) hkeep).mpr
    fun ⟨_, h⟩ => List.not_mem_nil h

/-- The second one is not: the first has taken the flag back. -/
theorem second_not_told :
    ¬ ∀ (w₀ w w' : World) (past es : List Event) (t : Nat) (st : WanState) (s : Vism),
      NoThreads w₀ → system.Run w₀ past w → (w.visms t).phase = .running st → leased st = true →
      system.Run (modeChanged w) es w' → .ticked t ∉ es → machine t w' = some s →
      Undisturbed st s → Takes .standbyDeconfigIps vismTick s := by
  intro h
  have hplays : system.plays [Example.ticks 0] (modeChanged Example.both) = true := by decide +kernel
  have hrun : system.Run (modeChanged Example.both) [.ticked 0] (tick 0 (modeChanged Example.both)) :=
    .play hplays
  have hphase : (Example.both.visms 1).phase = .running .ipv4Leased := by decide +kernel
  have hkeep : Undisturbed .ipv4Leased
      ((machine 1 (tick 0 (modeChanged Example.both))).getD {}) := by decide +kernel
  have htakes := h Example.start Example.both _ _ _ 1 .ipv4Leased _ ⟨rfl, fun _ => rfl, fun _ => rfl⟩
    Example.both_run hphase rfl hrun (by decide) (by decide +kernel) hkeep
  have hleased : leased .ipv4Leased = true := rfl
  rw [takes_iff_flag hleased (by decide +kernel) hkeep] at htakes
  exact absurd htakes (by decide +kernel)

end NetworkingMode
end WanManager
