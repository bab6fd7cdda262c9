import Mathlib.Data.List.Induction
import WanManager.World

/-! # Events for the WAN status

A state machine publishes the status of its virtual interface after it has changed it, under
the lock of the data base. Whether it did change is told by one remembered status, which is
that of the last virtual interface whoever it was. -/

namespace WanManager

namespace WanStatus

/-- A virtual interface: the index of its interface, and its own. -/
structure VifId where
  iface : Nat
  virtIf : Nat
  deriving DecidableEq, Repr

structure StatusEvent where
  vif : VifId
  status : IfaceStatus
  deriving DecidableEq, Repr

/-- The data base, the static variable of `WanMgr_Publish_WanStatus` and what it published. The
variable starts at `0`, which is the number of no status. -/
structure Publisher where
  shared : Shared := {}
  wanStatusSub : Nat → Bool := fun _ => true
  prevWanStatus : Option IfaceStatus := none
  events : List StatusEvent := []

/-- `WanMgr_Publish_WanStatus` -/
def publishWanStatus (id : VifId) (s : Publisher) : Publisher :=
  match s.shared.virtualIface? id.iface id.virtIf with
  | none => s
  | some p =>
    if some p.status ≠ s.prevWanStatus then
      { s with
        prevWanStatus := some p.status
        events := if s.wanStatusSub id.iface then s.events ++ [⟨id, p.status⟩] else s.events }
    else s

/-- A change of the status of a virtual interface, which is then published. -/
def changeStatus (s : Publisher) (c : StatusEvent) : Publisher :=
  publishWanStatus c.vif { s with
    shared := s.shared.modifyVirtIf c.vif.iface c.vif.virtIf fun p => { p with status := c.status } }

/-- The virtual interfaces that are changed are in the table, and the interfaces subscribed. -/
def Watched (s : Publisher) (cs : List StatusEvent) : Prop :=
  ∀ c ∈ cs, s.wanStatusSub c.vif.iface = true ∧
    s.shared.virtualIface? c.vif.iface c.vif.virtIf ≠ none

/-- The status of the last of some changes, if there was one. -/
def lastStatus (cs : List StatusEvent) : Option IfaceStatus := cs.getLast?.map (·.status)

/-- Those of one virtual interface. -/
def ofVif (id : VifId) (cs : List StatusEvent) : List StatusEvent := cs.filter (·.vif = id)

/-- Each change is published exactly when it differs from what was last published for the
same virtual interface. -/
def PublishesChanges (s : Publisher) (cs : List StatusEvent) : Prop :=
  ∀ pre c, pre ++ [c] <+: cs → ((pre ++ [c]).foldl changeStatus s).events =
    (pre.foldl changeStatus s).events ++
      if some c.status ≠ lastStatus (ofVif c.vif (pre.foldl changeStatus s).events) then [c] else []

/-- A change repeats the status of the change before it exactly when it repeats that of the
change before it of the same virtual interface. -/
def NoneConfused (cs : List StatusEvent) : Prop :=
  ∀ pre c, pre ++ [c] <+: cs →
    (some c.status = lastStatus pre ↔ some c.status = lastStatus (ofVif c.vif pre))

/-! ## One change -/

@[simp] theorem lastStatus_append (cs : List StatusEvent) (c : StatusEvent) :
    lastStatus (cs ++ [c]) = some c.status := by simp [lastStatus]

theorem ofVif_append (id : VifId) (cs : List StatusEvent) (c : StatusEvent) :
    ofVif id (cs ++ [c]) = if c.vif = id then ofVif id cs ++ [c] else ofVif id cs := by
  unfold ofVif
  rw [List.filter_append]
  split <;> simp [*]

theorem changeStatus_eq {s : Publisher} {c : StatusEvent} (hsub : s.wanStatusSub c.vif.iface = true)
    (hvif : s.shared.virtualIface? c.vif.iface c.vif.virtIf ≠ none) :
    changeStatus s c = { s with
      shared := s.shared.modifyVirtIf c.vif.iface c.vif.virtIf fun p => { p with status := c.status }
      prevWanStatus := some c.status
      events := s.events ++ if some c.status ≠ s.prevWanStatus then [c] else [] } := by
  obtain ⟨p, hp⟩ := Option.ne_none_iff_exists'.mp hvif
  unfold changeStatus publishWanStatus
  simp only [Shared.virtualIface?_modifyVirtIf, and_self, if_true, hp, Option.map_some, hsub]
  by_cases hchange : some c.status = s.prevWanStatus
  · simp [hchange]
  · simp [hchange]

theorem changeStatus_watched {s : Publisher} {c : StatusEvent} {cs : List StatusEvent}
    (h : Watched s cs) (hc : c ∈ cs) : Watched (changeStatus s c) cs := by
  rw [changeStatus_eq (h c hc).1 (h c hc).2]
  intro d hd
  refine ⟨(h d hd).1, ?_⟩
  rw [Shared.virtualIface?_modifyVirtIf]
  split
  · rw [Ne, Option.map_eq_none_iff]
    exact (h d hd).2
  · exact (h d hd).2

/-! ## All changes -/

theorem watched_foldl {s : Publisher} {cs : List StatusEvent} (h : Watched s cs)
    (pre : List StatusEvent) (hpre : ∀ c ∈ pre, c ∈ cs) : Watched (pre.foldl changeStatus s) cs := by
  induction pre generalizing s with
  | nil => exact h
  | cons c pre ih =>
    exact ih (changeStatus_watched h (hpre c List.mem_cons_self))
      fun d hd => hpre d (List.mem_cons_of_mem c hd)

/-- What is remembered is the status of the last change. -/
theorem prevWanStatus_foldl {s : Publisher} {pre : List StatusEvent} (h : Watched s pre)
    (hprev : s.prevWanStatus = none) :
    (pre.foldl changeStatus s).prevWanStatus = lastStatus pre := by
  induction pre using List.reverseRecOn with
  | nil => exact hprev
  | append_singleton pre c ih =>
    have hwatched := watched_foldl h pre fun d hd => List.mem_append_left _ hd
    have hc := hwatched c (by simp)
    rw [List.foldl_append, List.foldl_cons, List.foldl_nil, changeStatus_eq hc.1 hc.2, lastStatus_append]

/-- As long as changes are published, what was last published is the last change. -/
theorem lastStatus_events {s : Publisher} {cs : List StatusEvent} (h : PublishesChanges s cs)
    (hstart : s.events = []) (id : VifId) :
    lastStatus (ofVif id (cs.foldl changeStatus s).events) = lastStatus (ofVif id cs) := by
  induction cs using List.reverseRecOn with
  | nil => rw [List.foldl_nil, hstart]
  | append_singleton pre c ih =>
    have hpre := ih fun p d hd => h p d (hd.trans (List.prefix_append pre [c]))
    rw [h pre c (List.prefix_refl _), ofVif_append]
    by_cases hid : c.vif = id
    · subst hid
      rw [if_pos rfl, lastStatus_append]
      split
      · rw [ofVif_append, if_pos rfl, lastStatus_append]
      · next hsame => rw [List.append_nil]; exact (not_not.mp hsame).symm
    · rw [if_neg hid]
      split
      · rw [ofVif_append, if_neg hid, hpre]
      · rw [List.append_nil, hpre]

/-- One more change is published as it should be exactly when it is not confused. -/
theorem publishes_append_iff {s : Publisher} {pre : List StatusEvent} {c : StatusEvent}
    (hwatched : Watched s (pre ++ [c])) (hprev : s.prevWanStatus = none)
    (hstart : s.events = []) (hpre : PublishesChanges s pre) :
    ((pre ++ [c]).foldl changeStatus s).events = (pre.foldl changeStatus s).events ++
        (if some c.status ≠ lastStatus (ofVif c.vif (pre.foldl changeStatus s).events) then [c] else []) ↔
      (some c.status = lastStatus pre ↔ some c.status = lastStatus (ofVif c.vif pre)) := by
  have hw := watched_foldl hwatched pre fun d hd => List.mem_append_left _ hd
  have hc := hw c (by simp)
  have hlast : (pre.foldl changeStatus s).prevWanStatus = lastStatus pre :=
    prevWanStatus_foldl (fun d hd => hwatched d (List.mem_append_left _ hd)) hprev
  rw [lastStatus_events hpre hstart, List.foldl_append, List.foldl_cons, List.foldl_nil,
    changeStatus_eq hc.1 hc.2, List.append_right_inj, hlast]
  by_cases h1 : some c.status = lastStatus pre <;>
    by_cases h2 : some c.status = lastStatus (ofVif c.vif pre) <;>
    simp [h1, h2]

/-- Before the first change: nothing was published, and no status is remembered. -/
structure Started (s : Publisher) : Prop where
  prev : s.prevWanStatus = none
  events : s.events = []

/-- Every change is published exactly when none is confused with one of another interface. -/
theorem publishesChanges_iff {s : Publisher} {cs : List StatusEvent} (hwatched : Watched s cs)
    (hstart : Started s) : PublishesChanges s cs ↔ NoneConfused cs := by
  induction cs using List.reverseRecOn with
  | nil =>
    have hnil : ∀ (pre : List StatusEvent) c, ¬ pre ++ [c] <+: [] := by
      intro pre c h
      simpa using h.length_le
    exact ⟨fun _ pre c h => absurd h (hnil pre c), fun _ pre c h => absurd h (hnil pre c)⟩
  | append_singleton cs d ih =>
    have hbefore := ih fun c hc => hwatched c (List.mem_append_left _ hc)
    have hlast : ∀ pre c, pre ++ [c] <+: cs ++ [d] → (pre = cs ∧ c = d) ∨ pre ++ [c] <+: cs := by
      intro pre c h
      rw [List.prefix_concat_iff] at h
      exact h.imp_left fun heq => by simpa using List.append_inj' heq rfl
    constructor
    · intro h pre c hpre
      have hall : PublishesChanges s cs := fun p e he => h p e (he.trans (List.prefix_append cs [d]))
      obtain ⟨rfl, rfl⟩ | hpre := hlast pre c hpre
      · exact (publishes_append_iff hwatched hstart.prev hstart.events hall).mp
          (h pre c (List.prefix_refl _))
      · exact hbefore.mp hall pre c hpre
    · intro h pre c hpre
      have hall := hbefore.mpr fun p e he => h p e (he.trans (List.prefix_append cs [d]))
      obtain ⟨rfl, rfl⟩ | hpre := hlast pre c hpre
      · exact (publishes_append_iff hwatched hstart.prev hstart.events hall).mpr
          (h pre c (List.prefix_refl _))
      · exact hall pre c hpre

namespace Example

def twoIfaces : Publisher where
  shared := { ifaces := [{}, {}] }

def initialising (i : Nat) : StatusEvent := ⟨⟨i, 0⟩, .initialising⟩

end Example

open Example in
/-- One interface comes up and goes on. -/
theorem publishesChanges_single :
    PublishesChanges twoIfaces [initialising 0, ⟨⟨0, 0⟩, .validating⟩] := by
  refine (publishesChanges_iff ?_ ⟨rfl, rfl⟩).mpr ?_
  · intro c hc
    obtain rfl | rfl : c = initialising 0 ∨ c = ⟨⟨0, 0⟩, .validating⟩ := by simpa using hc
    all_goals exact ⟨rfl, by decide⟩
  · intro pre c hpre
    obtain ⟨post, hpost⟩ := hpre
    match pre, hpost with
    | [], h => cases h; decide
    | [_], h => cases h; decide
    | _ :: _ :: _, h => simp at h

open Example in
/-- The second of two interfaces that start to initialise is not published. -/
theorem change_not_published : ¬ ∀ s cs, Watched s cs → Started s → PublishesChanges s cs := by
  intro h
  have hpub := h twoIfaces [initialising 0, initialising 1]
    (by intro c hc; obtain rfl | rfl : c = initialising 0 ∨ c = initialising 1 := by simpa using hc
        all_goals exact ⟨rfl, by decide⟩) ⟨rfl, rfl⟩ [initialising 0] (initialising 1) (List.prefix_refl _)
  exact absurd hpub (by decide)

end WanStatus
end WanManager
