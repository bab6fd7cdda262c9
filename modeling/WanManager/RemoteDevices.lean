import Mathlib.Data.List.Infix
import Mathlib.Logic.Function.Basic
import WanManager.Concurrency.Labelled

/-! # The data models of the remote devices

`WanMgr_WanRemoteIfaceConfigure_thread` runs once for each remote device that is announced. It chooses
the list of parameters by the version of the device's data model, copies it to an array that all the
threads share, and goes through the array twice, when it asks for the values and when it subscribes.
Only what comes before is done under the mutex. -/

namespace WanManager.RemoteDevices
open Concurrency

/-! ## The lists -/

/-- `RemoteDM_list` -/
structure RemoteDm where
  name : Option String
  getRequest : Bool
  subscriptionRequest : Bool
  deriving DecidableEq, Repr

/-- An entry of bytes that are zero. -/
def RemoteDm.zero : RemoteDm := ⟨none, false, false⟩

/-- Whether the device answers for `WANMGR_REMOTE_DEVICE_WAN_DML_VERSION`. -/
inductive Version where
  | latest | v1
  deriving DecidableEq, Repr

/-- `RemoteDMs` and `RemoteV1DMs` -/
def table : Version → List RemoteDm
  | .latest =>
    [⟨some "Device.X_RDK_WanManager.Interface.1.DisplayName", true, false⟩,
      ⟨some "Device.X_RDK_WanManager.Interface.1.Alias", true, false⟩,
      ⟨some "Device.X_RDK_WanManager.Interface.1.BaseInterfaceStatus", true, true⟩,
      ⟨some "Device.X_RDK_WanManager.Interface.1.VirtualInterface.1.Status", true, true⟩,
      ⟨some "Device.X_RDK_WanManager.Interface.1.VirtualInterface.1.VlanStatus", true, true⟩]
  | .v1 =>
    [⟨some "Device.X_RDK_WanManager.CPEInterface.1.DisplayName", true, false⟩,
      ⟨some "Device.X_RDK_WanManager.CPEInterface.1.AliasName", true, false⟩,
      ⟨some "Device.X_RDK_WanManager.CPEInterface.1.Phy.Status", true, true⟩,
      ⟨some "Device.X_RDK_WanManager.CPEInterface.1.Wan.Status", true, true⟩,
      ⟨some "Device.X_RDK_WanManager.CPEInterface.1.Wan.LinkStatus", true, true⟩]

inductive Operation where
  | get | subs
  deriving DecidableEq, Repr

/-- The flag each of the two loops tests. -/
def RemoteDm.wants : Operation → RemoteDm → Bool
  | .get, dm => dm.getRequest
  | .subs, dm => dm.subscriptionRequest

/-- `idm_invoke_method_Params_t`, to the device of the thread. -/
structure Request where
  operation : Operation
  paramName : Option String
  timeout : Nat
  deriving DecidableEq, Repr

def request (op : Operation) (dm : RemoteDm) : Request :=
  ⟨op, dm.name, match op with | .get => 30 | .subs => 600⟩

/-! ## The threads -/

/-- `MAX_NO_OF_RBUS_REMOTE_PARAMS` -/
def maxParams : Nat := 64

/-- Where a thread is. -/
inductive Phase where
  | waiting
  /-- under `RemoteIfaceConfigure_mutex` -/
  | configuring
  /-- in the request for the version -/
  | asking
  /-- in `memset` and in `memcpy`, so many entries on -/
  | clearing (v : Version) (k : Nat)
  | copying (v : Version) (k : Nat)
  /-- in one of the loops: before the flag of an entry is tested, and before its name is read -/
  | testing (v : Version) (op : Operation) (i : Nat)
  | requesting (v : Version) (op : Operation) (i : Nat)
  | sleeping (v : Version)
  | exited (v : Option Version)
  deriving DecidableEq, Repr

structure Thread where
  phase : Phase := .waiting
  requests : List Request := []
  deriving DecidableEq, Repr

/-- The head of a loop. -/
def loop (v : Version) (op : Operation) (i : Nat) : Phase :=
  if i < (table v).length then .testing v op i
  else match op with
    | .get => .sleeping v
    | .subs => .exited (some v)

inductive Act where
  | lock
  /-- One of the returns under the mutex. -/
  | leave
  | unlock
  | answer (v : Version)
  | clear
  | copy
  | test
  | invoke
  | wake
  deriving DecidableEq, Repr

/-- One step of a thread, with the array before and after it. -/
def act : Act → List RemoteDm → Thread → Option (List RemoteDm × Thread)
  | .lock, list, ⟨.waiting, reqs⟩ => some (list, ⟨.configuring, reqs⟩)
  | .leave, list, ⟨.configuring, reqs⟩ => some (list, ⟨.exited none, reqs⟩)
  | .unlock, list, ⟨.configuring, reqs⟩ => some (list, ⟨.asking, reqs⟩)
  | .answer v, list, ⟨.asking, reqs⟩ => some (list, ⟨.clearing v 0, reqs⟩)
  | .clear, list, ⟨.clearing v k, reqs⟩ =>
    some (list.set k .zero, ⟨if k + 1 < maxParams then .clearing v (k + 1) else .copying v 0, reqs⟩)
  | .copy, list, ⟨.copying v k, reqs⟩ =>
    some (list.set k ((table v).getD k .zero),
      ⟨if k + 1 < (table v).length then .copying v (k + 1) else loop v .get 0, reqs⟩)
  | .test, list, ⟨.testing v op i, reqs⟩ =>
    some (list, ⟨if (list.getD i .zero).wants op then .requesting v op i else loop v op (i + 1), reqs⟩)
  | .invoke, list, ⟨.requesting v op i, reqs⟩ =>
    some (list, ⟨loop v op (i + 1), reqs ++ [request op (list.getD i .zero)]⟩)
  | .wake, list, ⟨.sleeping v, reqs⟩ => some (list, ⟨loop v .subs 0, reqs⟩)
  | _, _, _ => none

variable {τ : Type} [DecidableEq τ]

/-- `RemoteDMsQueryList` and the threads. -/
structure Remote (τ : Type) where
  list : List RemoteDm
  threads : τ → Thread

/-- A thread takes a step; the mutex is taken when no thread has it. -/
def remote (τ : Type) [DecidableEq τ] : Labelled (τ × Act) (Remote τ) where
  step e s s' := (e.2 = .lock → ∀ u, (s.threads u).phase ≠ .configuring) ∧
    ∃ list th, act e.2 s.list (s.threads e.1) = some (list, th) ∧
      s' = ⟨list, Function.update s.threads e.1 th⟩

/-- No thread has started, and the array has its size. -/
def Initial (s : Remote τ) : Prop := s.list.length = maxParams ∧ ∀ t, s.threads t = {}

/-! ## What a device is asked for -/

/-- The version of the list a thread has chosen. -/
def Phase.version : Phase → Option Version
  | .clearing v _ | .copying v _ | .testing v _ _ | .requesting v _ _ | .sleeping v => some v
  | .exited v => v
  | _ => none

/-- The requests of one loop for the first entries of the list of a version. -/
def wanted (v : Version) (op : Operation) (i : Nat) : List Request :=
  (((table v).take i).filter (·.wants op)).map (request op)

/-- The requests for the whole list. -/
def configuration (v : Version) : List Request :=
  wanted v .get (table v).length ++ wanted v .subs (table v).length

/-- A thread has made the requests of its own list in order, and all of them when it is done. -/
def OwnModel (th : Thread) : Prop :=
  match th.phase.version with
  | none => th.requests = []
  | some v => th.requests <+: configuration v ∧
      (th.phase = .exited (some v) → th.requests = configuration v)

/-! ## Steps that are not disturbed -/

/-- The thread is writing the array. -/
def Phase.selecting : Phase → Bool
  | .clearing _ _ | .copying _ _ => true
  | _ => false

/-- The version of the thread that will still read the array, or is writing it. -/
def Phase.inUse : Phase → Option Version
  | .exited _ => none
  | p => p.version

/-- A thread begins to write the array when no other one is writing it and the others that still read it
have its version, and it reads the array when no other one is writing it. -/
def Undisturbed (e : τ × Act) (s : Remote τ) : Prop :=
  match e.2 with
  | .answer v => ∀ u, (s.threads u).phase.selecting = false ∧
      ∀ w ∈ (s.threads u).phase.inUse, w = v
  | .test | .invoke => ∀ u, (s.threads u).phase.selecting = false
  | _ => True

/-! ## One thread -/

/-- The requests of the loops before. -/
def before (v : Version) : Operation → List Request
  | .get => []
  | .subs => wanted v .get (table v).length

def soFar : Phase → List Request
  | .testing v op i | .requesting v op i => before v op ++ wanted v op i
  | .sleeping v => wanted v .get (table v).length
  | .exited (some v) => configuration v
  | _ => []

/-- The counters are in their ranges, and a name is read for a flag that is set. -/
def InRange : Phase → Prop
  | .clearing _ k => k < maxParams
  | .copying v k => k < (table v).length
  | .testing v _ i => i < (table v).length
  | .requesting v op i => i < (table v).length ∧ ((table v).getD i .zero).wants op = true
  | _ => True

structure ThreadOk (th : Thread) : Prop where
  requests : th.requests = soFar th.phase
  inRange : InRange th.phase

theorem table_length (v : Version) : (table v).length = 5 := by cases v <;> rfl

theorem wanted_succ {v : Version} {op : Operation} {i : Nat} (hi : i < (table v).length) :
    wanted v op (i + 1) = wanted v op i ++
      if ((table v).getD i .zero).wants op then [request op ((table v).getD i .zero)] else [] := by
  have hentry : (table v).getD i .zero = (table v)[i] := by
    rw [List.getD_eq_getElem?_getD, List.getElem?_eq_getElem hi, Option.getD_some]
  rw [wanted, wanted, List.take_succ_eq_append_getElem hi, List.filter_append, List.map_append, hentry]
  split
  · next h => simp [h]
  · next h => simp [h]

theorem soFar_loop {v : Version} {op : Operation} {i : Nat} (hi : i ≤ (table v).length) :
    soFar (loop v op i) = before v op ++ wanted v op i := by
  unfold loop
  split
  · rfl
  · obtain rfl : i = (table v).length := by omega
    cases op with
    | get => exact (List.nil_append _).symm
    | subs => rfl

theorem inRange_loop (v : Version) (op : Operation) (i : Nat) : InRange (loop v op i) := by
  unfold loop
  split
  · assumption
  · cases op <;> trivial

theorem version_loop (v : Version) (op : Operation) (i : Nat) : (loop v op i).version = some v := by
  unfold loop
  split
  · rfl
  · cases op <;> rfl

theorem selecting_loop (v : Version) (op : Operation) (i : Nat) : (loop v op i).selecting = false := by
  unfold loop
  split
  · rfl
  · cases op <;> rfl

theorem inUse_le_version {p : Phase} {v : Version} (h : p.inUse = some v) : p.version = some v := by
  cases p <;> first | exact h | cases h

/-- The requests of a thread that keeps to its counters are those of its own list. -/
theorem ThreadOk.ownModel {th : Thread} (h : ThreadOk th) : OwnModel th := by
  obtain ⟨phase, reqs⟩ := th
  obtain ⟨hreqs, hrange⟩ := h
  have hpart : ∀ v op i, before v op ++ wanted v op i <+: configuration v := by
    intro v op i
    have htake : ∀ op, wanted v op i <+: wanted v op (table v).length := by
      intro op
      rw [wanted, wanted, List.take_length]
      exact ((List.take_prefix _ _).filter _).map _
    cases op with
    | get => exact (htake .get).trans (List.prefix_append _ _)
    | subs => exact (List.prefix_append_right_inj _).mpr (htake .subs)
  simp only at hreqs
  subst hreqs
  cases phase with
  | testing v op i => exact ⟨hpart v op i, by simp⟩
  | requesting v op i => exact ⟨hpart v op i, by simp⟩
  | sleeping v => exact ⟨List.prefix_append _ _, by simp⟩
  | clearing v k => exact ⟨List.nil_prefix, by simp⟩
  | copying v k => exact ⟨List.nil_prefix, by simp⟩
  | exited v =>
    cases v with
    | none => rfl
    | some v => exact ⟨List.prefix_rfl, fun _ => rfl⟩
  | _ => rfl

/-! ## The array -/

/-- The array holds the list of a version, and zeros behind it. -/
def Full (v : Version) (list : List RemoteDm) : Prop :=
  ∀ i < maxParams, list[i]? = some ((table v).getD i .zero)

/-- What a thread has written so far. -/
def Written : Phase → List RemoteDm → Prop
  | .clearing _ k, list => ∀ i < k, list[i]? = some .zero
  | .copying v k, list => ∀ i < maxParams, list[i]? = some (((table v).take k).getD i .zero)
  | _, _ => True

theorem written_of_not_selecting {p : Phase} (h : p.selecting = false) (list : List RemoteDm) :
    Written p list := by
  cases p <;> trivial

/-- At most one thread writes the array, those that still read it have one version, and it is theirs
when nobody writes it. -/
structure Shared (s : Remote τ) : Prop where
  size : s.list.length = maxParams
  threads : ∀ t, ThreadOk (s.threads t)
  alone : ∀ t u, (s.threads t).phase.selecting = true → (s.threads u).phase.selecting = true → t = u
  agree : ∀ t u v w, (s.threads t).phase.inUse = some v → (s.threads u).phase.inUse = some w → v = w
  written : ∀ t, Written (s.threads t).phase s.list
  full : (∀ t, (s.threads t).phase.selecting = false) →
    ∀ t v, (s.threads t).phase.inUse = some v → Full v s.list

omit [DecidableEq τ] in
theorem Shared.initial {s : Remote τ} (h : Initial s) : Shared s := by
  obtain ⟨hsize, hthreads⟩ := h
  constructor
  · exact hsize
  · intro t
    rw [hthreads]
    exact ⟨rfl, trivial⟩
  · intro t u ht
    rw [hthreads] at ht
    cases ht
  · intro t u v w ht
    rw [hthreads] at ht
    cases ht
  · intro t
    rw [hthreads]
    trivial
  · intro _ t v ht
    rw [hthreads] at ht
    cases ht

/-- A step that leaves the array alone and does not begin to use it. -/
theorem Shared.quiet {s : Remote τ} (h : Shared s) {t : τ} {th : Thread} (hok : ThreadOk th)
    (hbefore : (s.threads t).phase.selecting = false) (hafter : th.phase.selecting = false)
    (huse : ∀ v, th.phase.inUse = some v → (s.threads t).phase.inUse = some v) :
    Shared (⟨s.list, Function.update s.threads t th⟩ : Remote τ) := by
  have hselecting : ∀ u, (Function.update s.threads t th u).phase.selecting =
      (s.threads u).phase.selecting := by
    intro u
    by_cases hu : u = t
    · subst hu
      rw [Function.update_self, hafter, hbefore]
    · rw [Function.update_of_ne hu]
  have hinUse : ∀ u v, (Function.update s.threads t th u).phase.inUse = some v →
      (s.threads u).phase.inUse = some v := by
    intro u v
    by_cases hu : u = t
    · subst hu
      rw [Function.update_self]
      exact huse v
    · rw [Function.update_of_ne hu]
      exact id
  constructor
  · exact h.size
  · intro u
    by_cases hu : u = t
    · subst hu
      simpa using hok
    · simpa [hu] using h.threads u
  · intro u u' hu hu'
    simp only [hselecting] at hu hu'
    exact h.alone u u' hu hu'
  · intro u u' v w hv hw
    exact h.agree u u' v w (hinUse u v hv) (hinUse u' w hw)
  · intro u
    by_cases hu : u = t
    · subst hu
      simpa using written_of_not_selecting hafter s.list
    · simpa [hu] using h.written u
  · intro hnone u v hv
    simp only [hselecting] at hnone
    exact h.full hnone u v (hinUse u v hv)

/-- A step of the thread that writes the array. -/
theorem Shared.writes {s : Remote τ} (h : Shared s) {t : τ} {th : Thread} {list : List RemoteDm}
    {v : Version} (hsize : list.length = maxParams) (hok : ThreadOk th)
    (hothers : ∀ u, u ≠ t → (s.threads u).phase.selecting = false ∧
      ∀ w, (s.threads u).phase.inUse = some w → w = v)
    (huse : th.phase.inUse = some v) (hwritten : Written th.phase list)
    (hfull : th.phase.selecting = false → Full v list) :
    Shared (⟨list, Function.update s.threads t th⟩ : Remote τ) := by
  have hversion : ∀ u w, (Function.update s.threads t th u).phase.inUse = some w → w = v := by
    intro u w
    by_cases hu : u = t
    · subst hu
      rw [Function.update_self, huse, Option.some.injEq]
      exact Eq.symm
    · rw [Function.update_of_ne hu]
      exact (hothers u hu).2 w
  have hself : ∀ u, (Function.update s.threads t th u).phase.selecting = true → u = t := by
    intro u hu
    by_contra hne
    rw [Function.update_of_ne hne, (hothers u hne).1] at hu
    cases hu
  constructor
  · exact hsize
  · intro u
    by_cases hu : u = t
    · subst hu
      simpa using hok
    · simpa [hu] using h.threads u
  · intro u u' hu hu'
    rw [hself u hu, hself u' hu']
  · intro u u' w w' hw hw'
    rw [hversion u w hw, hversion u' w' hw']
  · intro u
    by_cases hu : u = t
    · subst hu
      simpa using hwritten
    · simp only [Function.update_of_ne hu]
      exact written_of_not_selecting (hothers u hu).1 list
  · intro hnone u w hw
    have ht := hnone t
    simp only [Function.update_self] at ht
    rw [hversion u w hw]
    exact hfull ht

omit [DecidableEq τ] in
/-- What the others do while a thread writes the array. -/
theorem Shared.others {s : Remote τ} (h : Shared s) {t : τ} {v : Version}
    (hselecting : (s.threads t).phase.selecting = true) (huse : (s.threads t).phase.inUse = some v) :
    ∀ u, u ≠ t → (s.threads u).phase.selecting = false ∧
      ∀ w, (s.threads u).phase.inUse = some w → w = v := by
  refine fun u hu => ⟨?_, fun w hw => h.agree u t w v hw huse⟩
  cases hu' : (s.threads u).phase.selecting with
  | false => rfl
  | true => exact absurd (h.alone u t hu' hselecting) hu

/-- Where the array is full, an entry is the one of the list. -/
theorem Full.getD {v : Version} {list : List RemoteDm} (h : Full v list) {i : Nat}
    (hi : i < (table v).length) : list.getD i .zero = (table v).getD i .zero := by
  have hsize : i < maxParams := by
    rw [table_length] at hi
    simp only [maxParams]
    omega
  rw [List.getD_eq_getElem?_getD, h i hsize, Option.getD_some]

theorem inUse_loop {v w : Version} {op : Operation} {i : Nat} (h : (loop v op i).inUse = some w) :
    w = v := by
  have hversion := inUse_le_version h
  rw [version_loop] at hversion
  exact (Option.some.inj hversion).symm

variable {s : Remote τ} {t : τ} {v : Version} {op : Operation} {i k : Nat} {reqs : List Request}

/-- One more entry of the array is zero. -/
theorem Shared.clear (h : Shared s) (hth : s.threads t = ⟨.clearing v k, reqs⟩) :
    Shared (⟨s.list.set k .zero, Function.update s.threads t
      ⟨if k + 1 < maxParams then .clearing v (k + 1) else .copying v 0, reqs⟩⟩ : Remote τ) := by
  obtain ⟨hreqs, hk⟩ : ThreadOk ⟨.clearing v k, reqs⟩ := hth ▸ h.threads t
  have hzeros : ∀ i < k, s.list[i]? = some .zero := by
    have hwritten := h.written t
    rwa [hth] at hwritten
  have hnext : ∀ i < k + 1, (s.list.set k .zero)[i]? = some .zero := by
    intro i hi
    rw [List.getElem?_set]
    have hbound : k < s.list.length := by rw [h.size]; exact hk
    by_cases hik : k = i
    · rw [if_pos hik, if_pos (hik ▸ hbound)]
    · rw [if_neg hik, hzeros i (by omega)]
  have hothers := h.others (t := t) (v := v) (by rw [hth]; rfl) (by rw [hth]; rfl)
  have hsize : (s.list.set k .zero).length = maxParams := by rw [List.length_set, h.size]
  split
  · next hmore =>
    exact h.writes hsize ⟨hreqs, hmore⟩ hothers rfl hnext fun hnot => by cases hnot
  · next hlast =>
    have hend : k + 1 = maxParams := by simp only [InRange] at hk; omega
    refine h.writes hsize ⟨hreqs, ?_⟩ hothers rfl (fun i hi => ?_) fun hnot => by cases hnot
    · simp [InRange, table_length]
    · rw [hnext i (by omega)]
      simp

theorem written_copying {list : List RemoteDm} (hsize : list.length = maxParams)
    (h : Written (.copying v k) list) :
    Written (.copying v (k + 1)) (list.set k ((table v).getD k .zero)) := by
  intro i hi
  rw [List.getElem?_set]
  by_cases hik : k = i
  · subst hik
    rw [if_pos rfl, if_pos (by omega), List.getD_eq_getElem?_getD, List.getD_eq_getElem?_getD,
      List.getElem?_take_of_lt (Nat.lt_succ_self k)]
  · rw [if_neg hik, h i hi, List.getD_eq_getElem?_getD, List.getD_eq_getElem?_getD, List.getElem?_take,
      List.getElem?_take]
    have hside : i < k ↔ i < k + 1 := by omega
    simp only [hside]

theorem full_of_written {list : List RemoteDm} (h : Written (.copying v (table v).length) list) :
    Full v list := by
  intro i hi
  rw [h i hi, List.take_length]

/-- One more entry of the array is the one of the list. -/
theorem Shared.copy (h : Shared s) (hth : s.threads t = ⟨.copying v k, reqs⟩) :
    Shared (⟨s.list.set k ((table v).getD k .zero), Function.update s.threads t
      ⟨if k + 1 < (table v).length then .copying v (k + 1) else loop v .get 0, reqs⟩⟩ : Remote τ) := by
  obtain ⟨hreqs, hk⟩ : ThreadOk ⟨.copying v k, reqs⟩ := hth ▸ h.threads t
  have hwritten : Written (.copying v k) s.list := by
    have hwritten := h.written t
    rwa [hth] at hwritten
  have hnext := written_copying h.size hwritten
  have hothers := h.others (t := t) (v := v) (by rw [hth]; rfl) (by rw [hth]; rfl)
  have hsize : (s.list.set k ((table v).getD k .zero)).length = maxParams := by
    rw [List.length_set, h.size]
  split
  · next hmore =>
    exact h.writes hsize ⟨hreqs, hmore⟩ hothers rfl hnext fun hnot => by cases hnot
  · next hlast =>
    have hend : k + 1 = (table v).length := by simp only [InRange] at hk; omega
    rw [hend] at hnext
    have hloop : loop v .get 0 = .testing v .get 0 := if_pos (by rw [table_length]; decide)
    rw [hloop]
    exact h.writes hsize ⟨hreqs, by simp [InRange, table_length]⟩ hothers rfl trivial
      fun _ => full_of_written hnext

/-- The flag of the entry is tested. -/
theorem Shared.test (h : Shared s) (hth : s.threads t = ⟨.testing v op i, reqs⟩)
    (hguard : ∀ u, (s.threads u).phase.selecting = false) :
    Shared (⟨s.list, Function.update s.threads t
      ⟨if (s.list.getD i .zero).wants op then .requesting v op i else loop v op (i + 1), reqs⟩⟩ :
        Remote τ) := by
  obtain ⟨hreqs, hi⟩ : ThreadOk ⟨.testing v op i, reqs⟩ := hth ▸ h.threads t
  have huse : (s.threads t).phase.inUse = some v := by rw [hth]; rfl
  have hentry := (h.full hguard t v huse).getD hi
  rw [hentry]
  split
  · next hflag => exact h.quiet ⟨hreqs, hi, hflag⟩ (hguard t) rfl fun w hw => huse.trans hw
  · next hflag =>
    refine h.quiet ⟨?_, inRange_loop _ _ _⟩ (hguard t) (selecting_loop _ _ _) fun w hw => ?_
    · rw [soFar_loop hi, wanted_succ hi, if_neg hflag, List.append_nil]
      exact hreqs
    · exact huse.trans (congrArg some (inUse_loop hw).symm)

/-- The name of the entry is read, and the device is asked. -/
theorem Shared.invoke (h : Shared s) (hth : s.threads t = ⟨.requesting v op i, reqs⟩)
    (hguard : ∀ u, (s.threads u).phase.selecting = false) :
    Shared (⟨s.list, Function.update s.threads t
      ⟨loop v op (i + 1), reqs ++ [request op (s.list.getD i .zero)]⟩⟩ : Remote τ) := by
  obtain ⟨hreqs, hi, hflag⟩ : ThreadOk ⟨.requesting v op i, reqs⟩ := hth ▸ h.threads t
  have huse : (s.threads t).phase.inUse = some v := by rw [hth]; rfl
  have hentry := (h.full hguard t v huse).getD hi
  rw [hentry]
  refine h.quiet ⟨?_, inRange_loop _ _ _⟩ (hguard t) (selecting_loop _ _ _) fun w hw => ?_
  · have hsofar : reqs = before v op ++ wanted v op i := hreqs
    rw [soFar_loop hi, wanted_succ hi, if_pos hflag, hsofar, List.append_assoc]
  · exact huse.trans (congrArg some (inUse_loop hw).symm)

/-- The second loop begins. -/
theorem Shared.wake (h : Shared s) (hth : s.threads t = ⟨.sleeping v, reqs⟩) :
    Shared (⟨s.list, Function.update s.threads t ⟨loop v .subs 0, reqs⟩⟩ : Remote τ) := by
  obtain ⟨hreqs, -⟩ : ThreadOk ⟨.sleeping v, reqs⟩ := hth ▸ h.threads t
  have huse : (s.threads t).phase.inUse = some v := by rw [hth]; rfl
  refine h.quiet ⟨?_, inRange_loop v .subs 0⟩ (by rw [hth]; rfl) (selecting_loop v .subs 0)
    fun w hw => ?_
  · rw [soFar_loop (Nat.zero_le _)]
    exact hreqs.trans (List.append_nil _).symm
  · have hversion : w = v := inUse_loop (show (loop v .subs 0).inUse = some w from hw)
    rw [huse, hversion]

/-- The device has answered, and its thread begins to write the array. -/
theorem Shared.answer (h : Shared s) (hth : s.threads t = ⟨.asking, reqs⟩)
    (hguard : ∀ u, (s.threads u).phase.selecting = false ∧ ∀ w ∈ (s.threads u).phase.inUse, w = v) :
    Shared (⟨s.list, Function.update s.threads t ⟨.clearing v 0, reqs⟩⟩ : Remote τ) := by
  obtain ⟨hreqs, -⟩ : ThreadOk ⟨.asking, reqs⟩ := hth ▸ h.threads t
  exact h.writes h.size ⟨hreqs, Nat.succ_pos 63⟩ (fun u _ => hguard u) rfl (fun _ hi => absurd hi (by omega))
    fun hnot => by cases hnot

/-- An undisturbed step keeps the array as the threads expect it. -/
theorem Shared.step {s s' : Remote τ} {e : τ × Act} (h : Shared s)
    (hstep : ((remote τ).restrict Undisturbed).step e s s') : Shared s' := by
  obtain ⟨t, a⟩ := e
  obtain ⟨hguard, -, list, th, hact, rfl⟩ := hstep
  obtain ⟨phase, reqs, hth⟩ : ∃ phase reqs, s.threads t = ⟨phase, reqs⟩ := ⟨_, _, rfl⟩
  have hok : ThreadOk ⟨phase, reqs⟩ := hth ▸ h.threads t
  have hquiet : ∀ p, phase.selecting = false → p.selecting = false → p.inUse = none →
      ThreadOk ⟨p, reqs⟩ → Shared (⟨s.list, Function.update s.threads t ⟨p, reqs⟩⟩ : Remote τ) := by
    intro p hbefore hafter huse hp
    exact h.quiet hp (by rw [hth]; exact hbefore) hafter fun v hv => by rw [huse] at hv; cases hv
  simp only [hth] at hact
  cases a with
  | lock => cases phase <;> cases hact; exact hquiet _ rfl rfl rfl ⟨hok.requests, trivial⟩
  | leave => cases phase <;> cases hact; exact hquiet _ rfl rfl rfl ⟨hok.requests, trivial⟩
  | unlock => cases phase <;> cases hact; exact hquiet _ rfl rfl rfl ⟨hok.requests, trivial⟩
  | answer v => cases phase <;> cases hact; exact h.answer hth hguard
  | clear => cases phase <;> cases hact; exact h.clear hth
  | copy => cases phase <;> cases hact; exact h.copy hth
  | test => cases phase <;> cases hact; exact h.test hth hguard
  | invoke => cases phase <;> cases hact; exact h.invoke hth hguard
  | wake => cases phase <;> cases hact; exact h.wake hth

/-! ## Every run -/

namespace Example

instance (s : Remote Bool) (e : Bool × Act) : Decidable (Undisturbed e s) := by
  unfold Undisturbed
  split <;> infer_instance

/-- A step of one of two threads. -/
def move (e : Bool × Act) : (remote Bool).Move where
  event := e
  edit s := (act e.2 s.list (s.threads e.1)).elim s fun r => ⟨r.1, Function.update s.threads e.1 r.2⟩
  ready s := (act e.2 s.list (s.threads e.1)).isSome &&
    decide (e.2 = .lock → ∀ u, (s.threads u).phase ≠ .configuring)
  allowed s hs := by
    simp only [Bool.and_eq_true, decide_eq_true_eq] at hs
    obtain ⟨⟨list, th⟩, hact⟩ := Option.isSome_iff_exists.mp hs.1
    refine ⟨hs.2, list, th, hact, ?_⟩
    rw [hact]
    rfl

def start : Remote Bool := ⟨List.replicate maxParams .zero, fun _ => {}⟩

/-- A thread up to the point where it has its list. -/
def chooses (t : Bool) (v : Version) : List (Bool × Act) :=
  [(t, .lock), (t, .unlock), (t, .answer v)] ++ List.replicate 64 (t, .clear) ++
    List.replicate 5 (t, .copy)

/-- The second device has the older model, and its thread comes between the choice of the first and its
first request. -/
def meeting : List (Bool × Act) :=
  chooses true .latest ++ chooses false .v1 ++ [(true, .test), (true, .invoke)]

/-- All the steps of a thread. -/
def configures (t : Bool) (v : Version) : List (Bool × Act) :=
  chooses t v ++ (List.replicate 5 [(t, Act.test), (t, .invoke)]).flatten ++
    [(t, .wake), (t, .test), (t, .test)] ++ (List.replicate 3 [(t, Act.test), (t, .invoke)]).flatten

/-- An undisturbed step of one of two threads. -/
def quietMove (e : Bool × Act) : ((remote Bool).restrict Undisturbed).Move :=
  (move e).guarded (fun s => decide (Undisturbed e s)) fun _ hs => of_decide_eq_true hs

end Example

/-- In a run of undisturbed steps every thread asks its device for the parameters of its own list. -/
theorem own_model {s s' : Remote τ} {es : List (τ × Act)} (hs : Initial s)
    (hrun : ((remote τ).restrict Undisturbed).Run s es s') (t : τ) : OwnModel (s'.threads t) := by
  have hshared : Shared s' :=
    hrun.invariant (K := fun _ => True) (fun _ _ => trivial) (Shared.initial hs)
      fun _ _ _ _ hu hstep => hu.step hstep
  exact (hshared.threads t).ownModel

open Example in
/-- Two devices of different versions, one after the other. -/
theorem own_model_both : ∃ s', (∃ es, ((remote Bool).restrict Undisturbed).Run start es s') ∧
    ((s'.threads true).phase = .exited (some .latest) ∧ OwnModel (s'.threads true)) ∧
    (s'.threads false).phase = .exited (some .v1) ∧ OwnModel (s'.threads false) := by
  obtain ⟨s', ⟨es, hrun⟩, hlatest, hv1⟩ :
      ∃ s', (∃ es, ((remote Bool).restrict Undisturbed).Run start es s') ∧
        (s'.threads true).phase = .exited (some .latest) ∧
        (s'.threads false).phase = .exited (some .v1) := by
    have hplays : ((remote Bool).restrict Undisturbed).plays
        ((configures true .latest ++ configures false .v1).map quietMove) start = true := by
      decide +kernel
    refine ⟨_, ⟨_, Labelled.Run.play hplays⟩, ?_⟩
    decide +kernel
  have hinit : Initial start := ⟨List.length_replicate, fun _ => rfl⟩
  exact ⟨s', ⟨es, hrun⟩, ⟨hlatest, own_model hinit hrun true⟩, hv1, own_model hinit hrun false⟩

open Example in
/-- The first device is asked for a parameter of the older model. -/
theorem other_model :
    ¬ ∀ (s s' : Remote Bool) (es : List (Bool × Act)), Initial s → (remote Bool).Run s es s' →
      ∀ t, OwnModel (s'.threads t) := by
  intro h
  obtain ⟨s', hrun, hasked⟩ : ∃ s', (∃ es, (remote Bool).Run start es s') ∧ s'.threads true =
      ⟨.testing .latest .get 1,
        [⟨.get, some "Device.X_RDK_WanManager.CPEInterface.1.DisplayName", 30⟩]⟩ := by
    have hplays : (remote Bool).plays (meeting.map move) start = true := by decide +kernel
    refine ⟨_, ⟨_, Labelled.Run.play hplays⟩, ?_⟩
    decide +kernel
  obtain ⟨es, hrun⟩ := hrun
  have hown := h start s' es ⟨List.length_replicate, fun _ => rfl⟩ hrun true
  rw [hasked] at hown
  exact absurd hown.1 (by decide)

end WanManager.RemoteDevices
