import WanManager.Types
import WanManager.Concurrency.Detached

/-! # Requests for the connectivity check

`WanMgr_Configure_TAD_WCC` hands every request to a detached thread, which calls the bus up
to four times. Nothing keeps the threads of one virtual interface apart, so the check ends
as the last request asks exactly when every request asks the same. -/

namespace WanManager
open Concurrency

namespace ConnectivityCheck

/-- `WCC_EVENT` -/
inductive WccEvent where
  | stop | start | restart
  deriving DecidableEq, Repr

/-- Which calls of a thread the bus answers with success. -/
structure BusAnswers where
  unsubscribe : Bool := true
  stop : Bool := true
  start : Bool := true
  subscribe : Bool := true
  deriving DecidableEq, Repr

/-- A call of `WanMgr_Configure_TAD_WCC` with what it reads of the virtual interface. -/
structure WccCall where
  event : WccEvent
  ipv4Data : Ipv4Data := {}
  ipv6Data : Ipv6Data := {}
  answers : BusAnswers := {}

/-- `TAD_WCC_Event`; of its texts none decides what the thread does. -/
structure TadWccEvent where
  event : WccEvent
  answers : BusAnswers := {}
  deriving DecidableEq, Repr

/-- `WanMgr_Configure_TAD_WCC`: without a name server there is nothing to check with. -/
def configureTadWcc (c : WccCall) : Option TadWccEvent :=
  if c.event ≠ .stop ∧ c.ipv4Data.dnsServer = "" ∧ c.ipv4Data.dnsServer1 = "" ∧
      c.ipv6Data.nameserver = "" ∧ c.ipv6Data.nameserver1 = "" then none
  else some { event := c.event, answers := c.answers }

/-- The calls that change something: those the bus answers with success. -/
inductive BusCall where
  | unsubscribe | stopCheck | startCheck | subscribe
  deriving DecidableEq, Repr

/-- The half of the thread that stops the check; it goes on after a failure. -/
def stopCalls (a : BusAnswers) : List BusCall :=
  (if a.unsubscribe then [.unsubscribe] else []) ++ (if a.stop then [.stopCheck] else [])

/-- The half that starts it; without the check there is nothing to subscribe to. -/
def startCalls (a : BusAnswers) : List BusCall :=
  if a.start then .startCheck :: (if a.subscribe then [.subscribe] else []) else []

/-- `WanMgr_Configure_WCC_Thread` -/
def configureWccThread (e : TadWccEvent) : List BusCall :=
  match e.event with
  | .stop => stopCalls e.answers
  | .start => startCalls e.answers
  | .restart => stopCalls e.answers ++ startCalls e.answers

/-- The thread of a call, if the call is accepted. -/
def wccProgram (c : WccCall) : List BusCall :=
  match configureTadWcc c with
  | some e => configureWccThread e
  | none => []

/-- What TestAndDiagnostic and the bus hold of the virtual interface. -/
@[ext] structure CheckState where
  running : Bool := false
  subscribed : Bool := false
  deriving DecidableEq, Repr

def busCall (s : CheckState) : BusCall → CheckState
  | .unsubscribe => { s with subscribed := false }
  | .stopCheck => { s with running := false }
  | .startCheck => { s with running := true }
  | .subscribe => { s with subscribed := true }

/-- What a request asks for. -/
def asksFor (e : WccEvent) : CheckState :=
  match e with
  | .stop => {}
  | .start | .restart => { running := true, subscribed := true }

/-- The accepted requests. -/
def accepted (cs : List WccCall) : List TadWccEvent := cs.filterMap configureTadWcc

/-- When all threads have ended, the check is as the last accepted request asks. -/
def LastRequestHolds (cs : List WccCall) (s : CheckState) : Prop :=
  ∀ last, (accepted cs).getLast? = some last →
    ∀ h, Crowd.Completes wccProgram cs h → h.foldl busCall s = asksFor last.event

/-! ## The two registers -/

def runningWrite : BusCall → Option Bool
  | .startCheck => some true
  | .stopCheck => some false
  | _ => none

def subscribedWrite : BusCall → Option Bool
  | .subscribe => some true
  | .unsubscribe => some false
  | _ => none

def runningRegister : Register busCall (fun _ => True) Bool where
  read := CheckState.running
  write := runningWrite
  keeps _ _ _ := trivial
  reads s c _ := by cases c <;> rfl

def subscribedRegister : Register busCall (fun _ => True) Bool where
  read := CheckState.subscribed
  write := subscribedWrite
  keeps _ _ _ := trivial
  reads s c _ := by cases c <;> rfl

/-- How a thread leaves the check, if it touches it. -/
def leavesRunning (e : TadWccEvent) : Option Bool :=
  match e.event with
  | .stop => if e.answers.stop then some false else none
  | .start => if e.answers.start then some true else none
  | .restart => if e.answers.start then some true else if e.answers.stop then some false else none

/-- How it leaves the subscription. -/
def leavesSubscribed (e : TadWccEvent) : Option Bool :=
  match e.event with
  | .stop => if e.answers.unsubscribe then some false else none
  | .start => if e.answers.start && e.answers.subscribe then some true else none
  | .restart =>
    if e.answers.start && e.answers.subscribe then some true
    else if e.answers.unsubscribe then some false
    else none

theorem lastWrite_running (e : TadWccEvent) :
    Crowd.lastWrite runningWrite (configureWccThread e) = leavesRunning e := by
  obtain ⟨event, ⟨unsubscribe, stop, start, subscribe⟩⟩ := e
  cases event <;> cases unsubscribe <;> cases stop <;> cases start <;> cases subscribe <;> rfl

theorem lastWrite_subscribed (e : TadWccEvent) :
    Crowd.lastWrite subscribedWrite (configureWccThread e) = leavesSubscribed e := by
  obtain ⟨event, ⟨unsubscribe, stop, start, subscribe⟩⟩ := e
  cases event <;> cases unsubscribe <;> cases stop <;> cases start <;> cases subscribe <;> rfl

/-! ## Every scheduling -/

/-- Every request that touches a value leaves `b` there, or none touches it and it is `b`. -/
def AllLeave (leaves : TadWccEvent → Option Bool) (es : List TadWccEvent) (initial b : Bool) : Prop :=
  (∀ e ∈ es, ∀ c, leaves e = some c → c = b) ∧ ((∀ e ∈ es, leaves e = none) → initial = b)

/-- All requests leave the check and the subscription as the last one asks. -/
def NoneAgainstTheLast (cs : List WccCall) (s : CheckState) : Prop :=
  ∀ last, (accepted cs).getLast? = some last →
    AllLeave leavesRunning (accepted cs) s.running (asksFor last.event).running ∧
      AllLeave leavesSubscribed (accepted cs) s.subscribed (asksFor last.event).subscribed

theorem lastWrite_wccProgram {w : BusCall → Option Bool} {leaves : TadWccEvent → Option Bool}
    (hw : ∀ e, Crowd.lastWrite w (configureWccThread e) = leaves e) (c : WccCall) :
    Crowd.lastWrite w (wccProgram c) = (configureTadWcc c).bind leaves := by
  unfold wccProgram
  cases configureTadWcc c with
  | none => rfl
  | some e => exact hw e

/-- The accepted requests are the ones that are carried out. -/
theorem allLeave_iff {leaves : TadWccEvent → Option Bool} {cs : List WccCall} {initial b : Bool} :
    ((∀ c ∈ cs, ∀ x, (configureTadWcc c).bind leaves = some x → x = b) ∧
        ((∀ c ∈ cs, (configureTadWcc c).bind leaves = none) → initial = b)) ↔
      AllLeave leaves (accepted cs) initial b := by
  unfold AllLeave accepted
  constructor
  · rintro ⟨hall, hnone⟩
    refine ⟨fun e he x hx => ?_, fun h => hnone fun c hc => ?_⟩
    · obtain ⟨c, hc, hce⟩ := List.mem_filterMap.mp he
      exact hall c hc x (by rw [hce]; exact hx)
    · cases hce : configureTadWcc c with
      | none => rfl
      | some e => exact h e (List.mem_filterMap.mpr ⟨c, hc, hce⟩)
  · rintro ⟨hall, hnone⟩
    refine ⟨fun c hc x hx => ?_, fun h => hnone fun e he => ?_⟩
    · obtain ⟨e, hce, hex⟩ := Option.bind_eq_some_iff.mp hx
      exact hall e (List.mem_filterMap.mpr ⟨c, hc, hce⟩) x hex
    · obtain ⟨c, hc, hce⟩ := List.mem_filterMap.mp he
      have hbind := h c hc
      rwa [hce] at hbind

/-- The last request decides under every scheduling exactly when no other is against it. -/
theorem lastRequestHolds_iff (cs : List WccCall) (s : CheckState) :
    LastRequestHolds cs s ↔ NoneAgainstTheLast cs s := by
  refine forall_congr' fun last => imp_congr_right fun _ => ?_
  have hboth : (∀ h, Crowd.Completes wccProgram cs h → h.foldl busCall s = asksFor last.event) ↔
      (∀ h, Crowd.Completes wccProgram cs h →
        runningRegister.read (h.foldl busCall s) = (asksFor last.event).running) ∧
      (∀ h, Crowd.Completes wccProgram cs h →
        subscribedRegister.read (h.foldl busCall s) = (asksFor last.event).subscribed) := by
    constructor
    · intro hall
      exact ⟨fun h hc => congrArg CheckState.running (hall h hc),
        fun h hc => congrArg CheckState.subscribed (hall h hc)⟩
    · rintro ⟨hrun, hsub⟩ h hc
      exact CheckState.ext (hrun h hc) (hsub h hc)
  rw [hboth, runningRegister.always_iff trivial, subscribedRegister.always_iff trivial]
  refine and_congr ?_ ?_
  · rw [← allLeave_iff]
    simp only [show ∀ c, Crowd.lastWrite runningRegister.write (wccProgram c) = _ from
      lastWrite_wccProgram lastWrite_running]
    rfl
  · rw [← allLeave_iff]
    simp only [show ∀ c, Crowd.lastWrite subscribedRegister.write (wccProgram c) = _ from
      lastWrite_wccProgram lastWrite_subscribed]
    rfl

/-- What a thread leaves when the bus answers with success. -/
theorem leaves_of_success {e : TadWccEvent} (h : e.answers = {}) :
    leavesRunning e = some (asksFor e.event).running ∧
      leavesSubscribed e = some (asksFor e.event).subscribed := by
  obtain ⟨event, answers⟩ := e
  subst h
  cases event <;> exact ⟨rfl, rfl⟩

theorem asksFor_eq_iff {d e : WccEvent} : asksFor d = asksFor e ↔ (d = .stop ↔ e = .stop) := by
  cases d <;> cases e <;> decide

/-- When the bus answers every call with success, either all of the requests are to stop the
check or none is. -/
theorem noneAgainstTheLast_of_success {cs : List WccCall} (s : CheckState)
    (hok : ∀ c ∈ cs, c.answers = {}) :
    NoneAgainstTheLast cs s ↔
      ∀ d ∈ accepted cs, ∀ e ∈ accepted cs, (d.event = .stop ↔ e.event = .stop) := by
  have hsuccess : ∀ e ∈ accepted cs, e.answers = {} := by
    intro e he
    obtain ⟨c, hc, hce⟩ := List.mem_filterMap.mp he
    unfold configureTadWcc at hce
    split at hce
    · cases hce
    · obtain rfl := Option.some.inj hce
      exact hok c hc
  constructor
  · intro h d hd e he
    have hasks : ∀ {d}, d ∈ accepted cs → ∀ last, (accepted cs).getLast? = some last →
        asksFor d.event = asksFor last.event := by
      intro d hd last hlast
      obtain ⟨hrun, hsub⟩ := leaves_of_success (hsuccess d hd)
      obtain ⟨hruns, hsubs⟩ := h last hlast
      exact CheckState.ext (hruns.1 d hd _ hrun) (hsubs.1 d hd _ hsub)
    obtain ⟨last, hlast⟩ := Option.ne_none_iff_exists'.mp
      (mt List.getLast?_eq_none_iff.mp (List.ne_nil_of_mem hd))
    exact asksFor_eq_iff.mp ((hasks hd last hlast).trans (hasks he last hlast).symm)
  · intro h last hlast
    have hmem := List.mem_of_getLast? hlast
    have hasks : ∀ e ∈ accepted cs, asksFor e.event = asksFor last.event :=
      fun e he => asksFor_eq_iff.mpr (h e he last hmem)
    refine ⟨⟨fun e he x hx => ?_, fun hnone => ?_⟩, ⟨fun e he x hx => ?_, fun hnone => ?_⟩⟩
    · rw [(leaves_of_success (hsuccess e he)).1] at hx
      rw [← Option.some.inj hx, hasks e he]
    · cases (hnone last hmem).symm.trans (leaves_of_success (hsuccess last hmem)).1
    · rw [(leaves_of_success (hsuccess e he)).2] at hx
      rw [← Option.some.inj hx, hasks e he]
    · cases (hnone last hmem).symm.trans (leaves_of_success (hsuccess last hmem)).2

namespace Example

/-- A request for an interface with a name server. -/
def request (e : WccEvent) : WccCall where
  event := e
  ipv4Data := { dnsServer := "192.0.2.53" }

end Example

open Example in
/-- The thread that starts the check overtakes the one that stops it. -/
theorem last_request_lost : ¬ ∀ cs s, LastRequestHolds cs s := by
  intro h
  have hstart := Crowd.steps_arrive wccProgram [request .start, request .stop] [] []
  have hstop := Crowd.steps_thread wccProgram [] [[.startCheck, .subscribe]] [] [.unsubscribe, .stopCheck] []
  have hlate := Crowd.steps_thread wccProgram [] [] [[]] [.startCheck, .subscribe] [.unsubscribe, .stopCheck]
  have hall := h [request .start, request .stop] {} _ rfl _
    ⟨_, hstart.trans (hstop.trans hlate), by simp⟩
  exact absurd hall (by decide)

end ConnectivityCheck
end WanManager
