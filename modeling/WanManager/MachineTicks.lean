import WanManager.System
import WanManager.InterfaceSmFrame

/-! # The ticks of the running machines

What the tick of one machine finds in the data base, what it stores there and what it leaves to the
other machines; and the transitions a tick takes. -/

namespace WanManager
open Concurrency

namespace VismView

/-- The machine a tick works on; `none` if its interface is not in the table. -/
def find (x : VismView) : Option Vism :=
  x.shared.ifaces[x.self.interfaceIdx]?.bind fun d =>
    (d.virtualIfaceById x.self.virIfIdx).map fun p => x.load d p

theorem phase_find {x : VismView} {s : Vism} (h : x.find = some s) : s.phase = x.self.phase := by
  simp only [find, Option.bind_eq_some_iff, Option.map_eq_some_iff] at h
  obtain ⟨d, -, p, -, rfl⟩ := h
  rfl

/-- What the thread keeps of its own from tick to tick. -/
theorem own_find {x : VismView} {s : Vism} (h : x.find = some s) :
    s.maptFeatureEnableChanged = x.self.sm.maptFeatureEnableChanged ∧ s.outside = x.self.sm.outside := by
  simp only [find, Option.bind_eq_some_iff, Option.map_eq_some_iff] at h
  obtain ⟨d, -, p, -, rfl⟩ := h
  exact ⟨rfl, rfl⟩

theorem config_find {x : VismView} {s : Vism} (h : x.find = some s) : s.config = x.shared.config := by
  simp only [find, Option.bind_eq_some_iff, Option.map_eq_some_iff] at h
  obtain ⟨d, -, p, -, rfl⟩ := h
  rfl

end VismView

namespace InterfaceSm

theorem vismSection_of_find {x : VismView} {s : Vism} (h : x.find = some s) :
    vismSection x = VismView.store (vismTick.run s).2 x := by
  simp only [VismView.find, Option.bind_eq_some_iff, Option.map_eq_some_iff] at h
  obtain ⟨d, hd, p, hp, rfl⟩ := h
  simp only [vismSection, hd, hp]

/-- Without its interface a machine that was just created ends, and another one waits. -/
theorem vismSection_of_not_find {x : VismView} (h : x.find = none) :
    vismSection x = x ∨ vismSection x = x.exit := by
  unfold vismSection
  cases hd : x.shared.ifaces[x.self.interfaceIdx]? with
  | none =>
    by_cases hp : x.self.phase = .created
    · exact .inr (by simp [hp])
    · exact .inl (by simp [hp])
  | some d =>
    cases hp : d.virtualIfaceById x.self.virIfIdx with
    | none => exact .inl (by simp [hp])
    | some p => simp [VismView.find, hd, hp] at h

/-! ## The transition a tick takes -/

/-- The program executes a section of the transition `t`. -/
def Takes {α : Type} (t : WanTransition) (p : VismProg α) (s : Vism) : Prop :=
  ¬ p.Admits (fun l _ => l ≠ .wanTransition t) s

section Takes

variable {α : Type} {guard : Site → Vism → Prop} {t : WanTransition} {s : Vism}

theorem admits_self {q : Vism → VismProg α} :
    (self >>= q).Admits guard s ↔ guard .vism s ∧ (q s).Admits guard s := Iff.rfl

theorem admits_act {g : Vism → Vism} {q : Unit → VismProg α} :
    (act g >>= q).Admits guard s ↔ guard .vism s ∧ (q ()).Admits guard (g s) := Iff.rfl

theorem admits_go {u : WanTransition} {g : Vism → WanState × Vism} :
    (go u g).Admits guard s ↔ guard (.wanTransition u) s := and_iff_left trivial

theorem takes_self {q : Vism → VismProg α} : Takes t (self >>= q) s ↔ Takes t (q s) s := by
  simp [Takes, admits_self]

theorem takes_act {g : Vism → Vism} {q : Unit → VismProg α} :
    Takes t (act g >>= q) s ↔ Takes t (q ()) (g s) := by
  simp [Takes, admits_act]

@[simp] theorem takes_go {u : WanTransition} {g : Vism → WanState × Vism} :
    Takes t (go u g) s ↔ u = t := by
  simp [Takes, admits_go]

@[simp] theorem takes_keep {st : WanState} : Takes t (keep st) s ↔ .keep = t := takes_go

theorem takes_ite {c : Prop} [Decidable c] {p q : VismProg α} :
    Takes t (if c then p else q) s ↔ if c then Takes t p s else Takes t q s := by
  split <;> rfl

/-- A tick executes the sections of its state function, between others that are no transition. -/
theorem admits_vismTick {st : WanState} (hs : s.phase = .running st) :
    vismTick.Admits guard s ↔ guard .vism s ∧ guard .vism s ∧
      (wanState st).Admits guard (prepared st s) ∧
        guard .vism ((wanState st).run (prepared st s)).2 := by
  have htick : vismTick.Admits guard s ↔ guard .vism s ∧ (vismLoop st).Admits guard s := by
    have hself : self.Admits guard s ↔ guard .vism s := and_iff_left trivial
    rw [vismTick, Prog.admits_bind, hself]
    simp [self, hs]
  have hloop : (vismLoop st).Admits guard s ↔ guard .vism s ∧
      (wanState st >>= fun st' => act (enter st st')).Admits guard (prepared st s) := Iff.rfl
  have hend : ∀ st' u, (act (enter st st')).Admits guard u ↔ guard .vism u :=
    fun _ _ => and_iff_left trivial
  rw [htick, hloop, Prog.admits_bind, hend]

theorem takes_vismTick {st : WanState} (hs : s.phase = .running st) :
    Takes t vismTick s ↔ Takes t (wanState st) (prepared st s) := by
  rw [Takes, Takes, admits_vismTick hs]
  simp

end Takes

end InterfaceSm

/-! ## One tick among the machines -/

/-- The thread with other answers to its calls and other connection states. -/
def VismThread.answered (t : VismThread) (o : VismOutside) (c4 c6 : Bool) : VismThread :=
  { t with sm := { t.sm with outside := o, ipv4ConnectionState := c4, ipv6ConnectionState := c6 } }

namespace System
open InterfaceSm

/-- The thread is in its loop. -/
def runs (p : VismPhase) : Bool :=
  match p with
  | .running _ => true
  | _ => false

theorem runs_iff {p : VismPhase} : runs p = true ↔ ∃ st, p = .running st := by
  cases p <;> simp [runs]

/-- A machine that has its interface and runs. -/
theorem exists_running {o : Option Vism} (h : (o.map fun s => runs s.phase).getD false = true) :
    ∃ s st, o = some s ∧ s.phase = .running st := by
  cases o with
  | none => cases h
  | some s =>
    obtain ⟨st, hphase⟩ := runs_iff.mp h
    exact ⟨s, st, rfl, hphase⟩

/-- The machine of the thread `t`, with the data its next tick finds. -/
def machine (t : Nat) (w : World) : Option Vism := ((World.vismView t).get w).find

def tick (t : Nat) (w : World) : World := (World.vismView t).amend vismSection w

/-- The threads that run are left where they are, and a new one starts with its first transition. -/
structure KeepsMachines (w w' : World) : Prop where
  kept : ∀ t, (w.visms t).Live → ∃ o c4 c6, w'.visms t = (w.visms t).answered o c4 c6
  fresh : ∀ t st, (w'.visms t).phase = .running st → (w.visms t).phase = .running st

theorem phase_machine {t : Nat} {w : World} {s : Vism} (h : machine t w = some s) :
    s.phase = (w.visms t).phase := VismView.phase_find h

theorem config_machine {t : Nat} {w : World} {s : Vism} (h : machine t w = some s) :
    s.config = w.shared.config := VismView.config_find h

theorem own_machine {t : Nat} {w : World} {s : Vism} (h : machine t w = some s) :
    s.maptFeatureEnableChanged = (w.visms t).sm.maptFeatureEnableChanged ∧
      s.outside = (w.visms t).sm.outside := VismView.own_find h

/-- The thread and the configuration after a tick. -/
theorem tick_machine {t : Nat} {w : World} {s : Vism} (h : machine t w = some s) :
    ((tick t w).visms t).sm = (vismTick.run s).2 ∧
      (tick t w).shared.config = (vismTick.run s).2.config := by
  have hget : (World.vismView t).get (tick t w) = VismView.store (vismTick.run s).2
      ((World.vismView t).get w) := by
    rw [tick, View.get_amend, vismSection_of_find h]
  exact ⟨congrArg (fun x => x.self.sm) hget, congrArg (fun x => x.shared.config) hget⟩

theorem tick_of_not_machine {t : Nat} {w : World} (h : machine t w = none) :
    (tick t w).shared = w.shared ∧ (((tick t w).visms t).sm = (w.visms t).sm ∨
      ((tick t w).visms t).sm = { (w.visms t).sm with phase := .exited }) := by
  have hget : (World.vismView t).get (tick t w) = vismSection ((World.vismView t).get w) := by
    rw [tick, View.get_amend]
  have hshared := congrArg VismView.shared hget
  have hself := congrArg (fun x => x.self.sm) hget
  obtain hsame | hexit := vismSection_of_not_find h
  · rw [hsame] at hshared hself
    exact ⟨hshared, .inl hself⟩
  · rw [hexit] at hshared hself
    exact ⟨hshared, .inr hself⟩

theorem visms_tick_ne {t u : Nat} (hne : t ≠ u) (w : World) : (tick u w).visms t = w.visms t :=
  Function.update_of_ne hne _ _

theorem KeepsMachines.phase {t : Nat} {st : WanState} {w w' : World} (h : KeepsMachines w w')
    (ht : (w.visms t).phase = .running st) : (w'.visms t).phase = .running st := by
  have hlive : (w.visms t).Live := by
    rw [VismThread.Live, ht]
    exact ⟨by simp, by simp⟩
  obtain ⟨o, c4, c6, heq⟩ := h.kept t hlive
  rw [heq]
  exact ht

/-! ## Two machines on one interface -/

/-- A selection thread creates machines for the first two virtual interfaces of an interface. -/
def createTwo (w : World) : World :=
  { w with visms := fun t =>
      if t < 2 then { interfaceIdx := 0, virIfIdx := t, sm := { phase := .created } } else w.visms t }

theorem keeps_createTwo {w : World} (h0 : (w.visms 0).phase = .absent)
    (h1 : (w.visms 1).phase = .absent) : KeepsMachines w (createTwo w) where
  kept t hlive := by
    refine ⟨_, _, _, if_neg fun hlt => ?_⟩
    obtain rfl | rfl : t = 0 ∨ t = 1 := by omega
    · exact hlive.1 h0
    · exact hlive.1 h1
  fresh t st ht := by
    change (if t < 2 then _ else w.visms t).phase = _ at ht
    by_cases hlt : t < 2
    · rw [if_pos hlt] at ht
      cases ht
    · rwa [if_neg hlt] at ht

/-- A change of both virtual interfaces. -/
def onBoth (f : VirtualIface → VirtualIface) (w : World) : World :=
  { w with shared := (w.shared.modifyVirtIf 0 0 f).modifyVirtIf 0 1 f }

theorem keeps_onBoth (f : VirtualIface → VirtualIface) (w : World) : KeepsMachines w (onBoth f w) :=
  ⟨fun _ _ => ⟨_, _, _, rfl⟩, fun _ _ h => h⟩

end System
end WanManager
