import WanManager.FailoverTarget

/-! # What the failover machine activates

Two laws about the machine's trace: `Transition_ActivateGroup` is not entered without a
valid group, and a restoration whose delay expired moves to a group that is still valid.
The source marks the first case as unreachable; it is reached when WAN is enabled again
during a deactivation that began without a valid group. The second fails if the target
loses its connection or its selected interface during the wait, since
`State_RestorationWait` tests less than `MarkHighPriorityGroup`.
-/

namespace WanManager
open Concurrency

namespace Failover

/-! ## Activation without a valid group -/

/-- No entry of `Transition_ActivateGroup` was without a group, and none left the
interface of the current group `SELECTED`. -/
def ActivatesSomething (t : FailOverThread) : Prop :=
  ∀ g left, .activated g left ∈ t.trace → g ≠ 0 ∧ left = false

/-- While a deactivation that began without a valid group goes on, no tick finds WAN
enabled again. -/
def StaysDisabled (l : Site) (v : FailOverView) : Prop :=
  l = .updateFOControllerData → v.self.phase = .loop .deactivateGroup →
    v.self.ctrl.highestValidGroup = 0 → v.shared.config.enable = false

instance (l : Site) (v : FailOverView) : Decidable (StaysDisabled l v) :=
  inferInstanceAs (Decidable (_ → _ → _ → _))

theorem activation_law :
    TraceLaw (fun e => ∀ g left, e = .activated g left → g ≠ 0 ∧ left = false) (fun _ _ => True)
      StaysDisabled where
  deactivateGroup := by simp
  restoration := by simp
  restorationFail := by simp
  resetScan := by simp
  activated g hg := by simpa using hg
  enabled v hguard hphase hz hen := by simp [hguard rfl hphase hz] at hen
  shown _ _ _ _ h := h
  found _ _ _ := trivial
  expired := by simp

/-- In every run in which WAN is not enabled again during a deactivation that began without
a valid group, `Transition_ActivateGroup` always has a group and leaves its interface
activated. -/
theorem failover_activates_something {c : Config Site Unit FailOverView}
    (h : pool.Reach StaysDisabled Initial c) : ActivatesSomething c.store.self := by
  have hrecord : ∃ g, targetPool.Reach (fun l x => StaysDisabled l x.1) TargetInitial
      (Pool.withHistory noteTarget g c) := Pool.Reach.record h
  obtain ⟨target, hrun⟩ := hrecord
  have hlimit := Pool.Reach.limit (R := fun _ _ => True) (fun _ _ _ => trivial) hrun
  exact fun g left hm => activation_law.reach (fun _ _ _ _ _ _ => trivial) hlimit _ hm g left rfl

/-! The interface is found and activated, and it loses its lease; WAN is disabled so that
the group is deactivated. It stays disabled to the end, or is enabled before the next tick. -/

namespace Example

def activation : List pool.Move := [enable true, found]

def disabled : List pool.Move := activation ++ [virtIfStatus .validating, enable false, enable false]

def reenabled : List pool.Move := activation ++ [virtIfStatus .validating, enable false, enable true]

end Example

open Example in
theorem failover_activates_something_run :
    ActivatesSomething (pool.play disabled start).self ∧
      (pool.play disabled start).self.trace = [.activated 1 false, .deactivateGroup] :=
  ⟨failover_activates_something (c := Pool.idle (pool.play disabled start))
    (Pool.Reach.play (.start ⟨rfl, rfl, rfl⟩) (by decide +kernel)), by decide +kernel⟩

open Example in
/-- Enabled again in `STATE_FAILOVER_DEACTIVATE_GROUP`, the machine activates nothing and
returns to `STATE_FAILOVER_GROUP_ACTIVE` with the interface `SELECTED`. -/
theorem failover_activates_nothing :
    ¬ ∀ c, pool.Reach (fun _ _ => True) Initial c → ActivatesSomething c.store.self := by
  intro h
  have hrun := h _ (Pool.Reach.play (m := reenabled) (.start (s := start) ⟨rfl, rfl, rfl⟩)
    (by decide +kernel))
  have hmem : .activated 0 true ∈ (pool.play reenabled start).self.trace := by decide +kernel
  exact (hrun 0 true hmem).1 rfl

/-! ## Restoration to a group that went down -/

/-- Every restoration whose delay expired was to a group that was still valid. -/
def RestoresToValid (t : FailOverThread) : Prop :=
  ∀ valid, .restorationExpired valid ∈ t.trace → valid = true

/-- What `State_RestorationWait` does not test of an interface. -/
def connected (d : WanIface) : Bool :=
  (d.ifaceType != .remote || d.virtIf.remoteStatus == .up) &&
    (d.virtIf.ip.ipv4ConnectivityStatus == .up || d.virtIf.ip.ipv6ConnectivityStatus == .up)

/-- What `State_RestorationWait` tests of an interface. -/
def statusUsable (d : WanIface) : Bool := d.virtIf.status == .standby || d.virtIf.status == .up

theorem ifaceUsable_eq (d : WanIface) : ifaceUsable d = (statusUsable d && connected d) := by
  simp [ifaceUsable, statusUsable, connected, bne, Bool.and_assoc]

/-- The group has a selected interface, which is connected unless it went down. -/
def targetConnected (s : Shared) (g : Nat) : Bool :=
  (s.selectedIface? g).any fun d => !statusUsable d || connected d

/-- What others do leaves the group to be restored with a selected interface, and that
interface connected as long as its virtual interface is `STANDBY` or `UP`. -/
def KeepsTarget (x y : FailOverView × Option Nat) : Prop :=
  ∀ g ∈ x.2, targetConnected x.1.shared g = true → targetConnected y.1.shared g = true

instance : DecidableRel KeepsTarget := fun _ _ => inferInstanceAs (Decidable (∀ _ ∈ _, _ → _))

theorem targetConnected_shown {s s' : Shared} {g : Nat} (h : s'.target? g = s.target? g) :
    targetConnected s' g = targetConnected s g := by
  have hshown (s : Shared) : targetConnected s g = (s.target? g).any fun p =>
      !(p.2.status == .standby || p.2.status == .up) ||
        (p.1 != .remote || p.2.remoteStatus == .up) &&
          (p.2.ip.ipv4ConnectivityStatus == .up || p.2.ip.ipv6ConnectivityStatus == .up) := by
    unfold targetConnected Shared.target?
    cases s.selectedIface? g <;> rfl
  rw [hshown, hshown, h]

theorem restorationTest_expired {v : FailOverView} {valid : Bool}
    (h : restorationTest v = .expired valid) :
    highestValidGroupDown v = false ∧ valid = groupUsable v.shared v.self.ctrl.highestValidGroup := by
  unfold restorationTest at h
  split at h
  · cases h
  · rename_i hdown
    split at h <;> cases h
    exact ⟨by simpa using hdown, rfl⟩

/-- What the wait tests and what the others leave of the target make it valid. -/
theorem groupUsable_of_connected {v : FailOverView}
    (hconn : targetConnected v.shared v.self.ctrl.highestValidGroup = true)
    (hdown : highestValidGroupDown v = false) :
    groupUsable v.shared v.self.ctrl.highestValidGroup = true := by
  unfold targetConnected at hconn
  unfold highestValidGroupDown at hdown
  unfold groupUsable
  cases hd : v.shared.selectedIface? v.self.ctrl.highestValidGroup with
  | none => simp [hd] at hconn
  | some d =>
    have hstatus : statusUsable d = true := by
      cases hs : d.virtIf.status <;> simp [hd, hs, statusUsable] at hdown ⊢
    simpa [hd, ifaceUsable_eq, hstatus] using hconn

theorem restoration_law :
    TraceLaw (fun e => ∀ valid, e = .restorationExpired valid → valid = true)
      (fun s g => targetConnected s g = true) fun _ _ => True where
  deactivateGroup := by simp
  restoration := by simp
  restorationFail := by simp
  resetScan := by simp
  activated := by simp
  enabled := by simp
  shown _ _ _ hshown h := (targetConnected_shown hshown).trans h
  found s g h := by
    unfold groupUsable at h
    unfold targetConnected
    cases hd : s.selectedIface? g with
    | none => simp [hd] at h
    | some d =>
      have hboth : statusUsable d = true ∧ connected d = true := by simpa [hd, ifaceUsable_eq] using h
      simp [hboth.2]
  expired v b hconn hb valid hv := by
    cases hv
    obtain ⟨hdown, hvalid⟩ := restorationTest_expired hb
    exact hvalid.trans (groupUsable_of_connected hconn hdown)

/-- The runs in which the others keep the target are runs of the machine. -/
theorem keepsTarget_runs {c : Config Site Unit (FailOverView × Option Nat)}
    (h : (targetPool.limit KeepsTarget).Reach (fun _ _ => True) TargetInitial c) :
    ∃ d, pool.Reach (fun _ _ => True) Initial d ∧ d.store = c.store.1 :=
  Pool.record_runs.mpr ⟨c, h.of_limit, rfl⟩

/-- In every run in which the others leave a group to be restored connected, from the
section of `MarkHighPriorityGroup` that found it to the end of the wait, the machine only
gives the current group up for a group `MarkHighPriorityGroup` accepts. -/
theorem failover_restores_to_valid {c : Config Site Unit (FailOverView × Option Nat)}
    (h : (targetPool.limit KeepsTarget).Reach (fun _ _ => True) TargetInitial c) :
    RestoresToValid c.store.1.self :=
  fun valid hm => restoration_law.reach (fun _ _ hk => hk) h _ hm valid rfl

/-! The first group is activated, loses its lease to the second, gets it back and waits for
the restoration delay. -/

namespace Example

def restoration (st : ConnectivityStatus) : List pool.Move :=
  [enable true, found, found₂, virtIfStatus .validating, enable true, virtIfStatus .standby,
    connectivity st]

theorem keepsTarget_refl (x : FailOverView × Option Nat) : targetPool.env x x ∧ KeepsTarget x x :=
  ⟨⟨⟨rfl, Nat.le_refl _, by simp⟩, rfl⟩, fun _ _ h => h⟩

/-- The moves of a script, with the target noted and its connection kept. -/
def keeping (ms : List pool.Move) : List (targetPool.limit KeepsTarget).Move :=
  ms.map fun m => (m.record noteTarget).limit keepsTarget_refl

end Example

instance : ∀ t x, Decidable ((targetPool.limit KeepsTarget).ready t x) := fun _ _ => isTrue trivial

open Example in
theorem failover_restores_to_valid_run :
    RestoresToValid
        ((targetPool.limit KeepsTarget).play (keeping (restoration .up)) (start₂, none)).1.self ∧
      .restorationExpired true ∈
        ((targetPool.limit KeepsTarget).play (keeping (restoration .up)) (start₂, none)).1.self.trace := by
  have hplays : (targetPool.limit KeepsTarget).Plays (fun _ _ => True) (keeping (restoration .up))
      (start₂, none) := by decide +kernel
  have hvalid := failover_restores_to_valid
    (Pool.Reach.play (.start ⟨⟨rfl, rfl, rfl⟩, rfl⟩) hplays)
  rw [Pool.idle_store] at hvalid
  exact ⟨hvalid, by decide +kernel⟩

open Example in
/-- A target that lost its connectivity during the delay is moved to all the same. -/
theorem failover_restores_to_unusable :
    ¬ ∀ c, pool.Reach (fun _ _ => True) Initial c → RestoresToValid c.store.self := by
  intro h
  have hrun := h _ (Pool.Reach.play (m := restoration .down) (.start (s := start₂) ⟨rfl, rfl, rfl⟩)
    (by decide +kernel))
  have hmem : .restorationExpired false ∈ (pool.play (restoration .down) start₂).self.trace := by
    decide +kernel
  exact absurd (hrun false hmem) (by decide)

end Failover
end WanManager
