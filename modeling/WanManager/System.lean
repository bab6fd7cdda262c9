import WanManager.Failover
import WanManager.PolicyAuto
import WanManager.PolicyParallelScan
import WanManager.InterfaceSm

/-! # The system

The failover thread, the selection threads it creates and the interface state machines
those create, as one pool over the data base. What the rest of the program may do between
two sections is left to the theorems: each names what it needs to be left alone. -/

namespace WanManager
open Concurrency

/-! ## Selection threads -/

/-- One wake-up of a selection thread. -/
def Policy.tick : PolicyProg Unit := do
  match ← Prog.read .thread (·.self.phase) with
  | .created .parallelScan => ParallelScan.start
  | .created _ => AutoWan.start
  | .autoWan st => AutoWan.loop st
  | .parallelScan st => ParallelScan.loop st
  | .absent | .exited => return ()

section PolicyTick

variable {x : PolicyView}

theorem Policy.tick_autoWan {st : AutoWanState} (h : x.self.phase = .autoWan st) :
    Policy.tick.run x = (AutoWan.loop st).run x := by
  simp [Policy.tick, h]

theorem Policy.tick_parallelScan {st : ParallelScanState} (h : x.self.phase = .parallelScan st) :
    Policy.tick.run x = (ParallelScan.loop st).run x := by
  simp [Policy.tick, h]

theorem Policy.tick_created {policy : WanPolicy} (h : x.self.phase = .created policy) :
    Policy.tick.run x =
      (if policy = .parallelScan then ParallelScan.start else AutoWan.start).run x := by
  cases policy <;> simp [Policy.tick, h]

end PolicyTick

/-! ## Interface state machines -/

namespace VismView

/-- The machine with the interface data it finds. -/
def load (d : WanIface) (p : VirtualIface) (x : VismView) : Vism :=
  { x.self.sm with
    config := x.shared.config
    selection := d.selection
    baseInterface := d.baseInterface
    baseInterfaceStatus := d.baseInterfaceStatus
    ifaceType := d.ifaceType
    virtIf := p
    now := x.shared.now }

/-- A rescan the machine requested is counted. -/
def storeConfig (c : WanConfig) (s : Shared) : Shared :=
  { s with
    config := c
    rescanRequests :=
      if c.resetFailOverScan ∧ ¬ s.config.resetFailOverScan then s.rescanRequests + 1
      else s.rescanRequests }

def store (m : Vism) (x : VismView) : VismView where
  shared := storeConfig m.config
    (x.shared.modifyVirtIf x.self.interfaceIdx x.self.virIfIdx fun _ => m.virtIf)
  self := { x.self with sm := m }

def exit (x : VismView) : VismView :=
  { x with self := { x.self with sm := { x.self.sm with phase := .exited } } }

end VismView

namespace InterfaceSm

/-- One iteration of `WanMgr_InterfaceSMThread`. A thread whose interface is not in the
table ends at once; the loop relies on it, and on the virtual interface, to stay there. -/
def vismSection (x : VismView) : VismView :=
  match x.shared.ifaces[x.self.interfaceIdx]? with
  | none => if x.self.phase = .created then x.exit else x
  | some d =>
    match d.virtualIfaceById x.self.virIfIdx with
    | none => x
    | some p => VismView.store (vismTick.run (x.load d p)).2 x

def tick : Prog Site VismView Unit := .modify .vism vismSection

end InterfaceSm

/-! ## The pool -/

inductive Thread where
  | failOver
  | policy (t : Nat)
  | vism (t : Nat)
  deriving DecidableEq, Repr

/-- A section of the system: whose it is, and which. -/
abbrev Section := Thread × Site

namespace System

def body : Thread → Prog Section World Unit
  | .failOver => (World.failOverView.lift Failover.failOverTick).relabel (Prod.mk .failOver)
  | .policy t => ((World.policyView t).lift Policy.tick).relabel (Prod.mk (.policy t))
  | .vism t => ((World.vismView t).lift InterfaceSm.tick).relabel (Prod.mk (.vism t))

def Ready : Thread → World → Prop
  | .failOver, _ => True
  | .policy t, w => (w.policies t).Live
  | .vism t, w => (w.visms t).Live

instance : ∀ t w, Decidable (Ready t w)
  | .failOver, _ => isTrue trivial
  | .policy t, w => inferInstanceAs (Decidable (w.policies t).Live)
  | .vism t, w => inferInstanceAs (Decidable (w.visms t).Live)

def pool (env : World → World → Prop) : Pool Section Thread World where
  body := body
  ready := Ready
  env := env

instance (env : World → World → Prop) (t : Thread) (w : World) :
    Decidable ((pool env).ready t w) := inferInstanceAs (Decidable (Ready t w))

/-- A tick of a thread after a change of the data base that the environment may make. -/
def after {env : World → World → Prop} (f : Shared → Shared)
    (h : ∀ w, env w { w with shared := f w.shared }) (t : Thread) : (pool env).Move where
  edit w := { w with shared := f w.shared }
  allowed := h
  thread := t

/-- No thread was created yet, and the failover thread was not started. -/
structure NoThreads (w : World) : Prop where
  failOver : w.failOver = {}
  policies : ∀ t, (w.policies t).phase = .absent
  visms : ∀ t, (w.visms t).phase = .absent

end System
end WanManager
