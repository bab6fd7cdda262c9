import WanManager.SentOptions

/-! # A sent option is added as a whole

The calls of `wanmgr_dhcpv6_apis.c` against the entries they are about. The loops of the calls that
delete and change an entry run up to `g_sent_option_num`, so they stay inside the table as long as that
number counts its entries. -/

namespace WanManager.SentOptions
open Concurrency

/-! ## The entries a call leaves -/

/-- What a call does to the entries; an entry that finds no memory is not added. -/
def Call.effect (client : Nat) : Call → List SentOption → List SentOption
  | .add c allocates e, es => if c = client ∧ allocates = true then es ++ [e] else es
  | .del c inst, es => if c = client then es.eraseP (·.instanceNumber = inst) else es
  | .set e, es => replaceFirst e es

/-- What calls do one after the other; the last one stands first. -/
def effects (client : Nat) (cs : List Call) (es : List SentOption) : List SentOption :=
  cs.foldr (Call.effect client) es

/-- The call reads no memory but that of the entries, and does its effect on them. -/
def Follows (c : Call) (es : List SentOption) (t : Table) : Prop :=
  ∃ st u, c.perform t = some (st, u) ∧ u.client = t.client ∧ Lists (c.effect t.client es) u

/-- An entry that is added to the client finds memory. -/
def FindsMemory : Call → Table → Prop
  | .add client allocates _, t => client = t.client → allocates = true
  | _, _ => True

theorem addSentOption_other {client : Nat} {t : Table} (h : client ≠ t.client) (allocates : Bool)
    (e : SentOption) : t.addSentOption client allocates e = (.failure, t) := if_pos h

/-- Without memory only the number has changed. -/
theorem addSentOption_refused (t : Table) (e : SentOption) :
    t.addSentOption t.client false e = (.failure, { t with num := t.num + 1 }) := by
  simp [Table.addSentOption]

theorem addSentOption_status (t : Table) (e : SentOption) :
    (t.addSentOption t.client true e).1 = .success := by
  simp [Table.addSentOption]

theorem addSentOption_client (client : Nat) (allocates : Bool) (e : SentOption) (t : Table) :
    (t.addSentOption client allocates e).2.client = t.client := by
  unfold Table.addSentOption
  split
  · rfl
  · cases allocates
    · rfl
    · exact restartIf_client _ _

theorem Lists.add_follows {es : List SentOption} {t : Table} (h : Lists es t) {client : Nat}
    {allocates : Bool} {e : SentOption} (hmemory : client = t.client → allocates = true) :
    Follows (.add client allocates e) es t := by
  refine ⟨_, (t.addSentOption client allocates e).2, rfl, addSentOption_client _ _ _ _, ?_⟩
  by_cases hclient : client = t.client
  · obtain rfl := hmemory hclient
    subst hclient
    rw [Call.effect, if_pos ⟨rfl, rfl⟩]
    exact (h.addSentOption e).1
  · rw [Call.effect, if_neg fun hboth => hclient hboth.1, addSentOption_other hclient]
    exact h

theorem Lists.del_follows {es : List SentOption} {t : Table} (h : Lists es t) (client inst : Nat) :
    Follows (.del client inst) es t := by
  by_cases hclient : client = t.client
  · subst hclient
    obtain ⟨st, u, hdel, hkept, hlists, -⟩ := h.delSentOption inst
    refine ⟨st, u, hdel, hkept, ?_⟩
    rwa [Call.effect, if_pos rfl]
  · refine ⟨.failure, t, if_pos hclient, rfl, ?_⟩
    rwa [Call.effect, if_neg hclient]

theorem Lists.set_follows {es : List SentOption} {t : Table} (h : Lists es t) (e : SentOption) :
    Follows (.set e) es t := by
  obtain ⟨st, u, hset, hkept, hlists, -⟩ := h.setSentOption e
  exact ⟨st, u, hset, hkept, hlists⟩

/-- Only the number of a refused entry is counted that the table does not hold. -/
theorem Lists.not_follows {es : List SentOption} {t : Table} (h : Lists es t) (e : SentOption) :
    ¬ Follows (.add t.client false e) es t := by
  rintro ⟨st, u, hperform, -, hlists⟩
  rw [Call.perform, addSentOption_refused, Option.some.injEq, Prod.mk.injEq] at hperform
  obtain ⟨-, rfl⟩ := hperform
  rw [Call.effect, if_neg fun hboth => Bool.false_ne_true hboth.2] at hlists
  have hnum : t.num + 1 = es.length := hlists.num
  have hbefore := h.num
  omega

theorem Lists.follows_iff {es : List SentOption} {t : Table} (h : Lists es t) (c : Call) :
    Follows c es t ↔ FindsMemory c t := by
  cases c with
  | add client allocates e =>
    refine ⟨fun hfollows hclient => ?_, h.add_follows⟩
    subst hclient
    cases allocates with
    | false => exact absurd hfollows (h.not_follows e)
    | true => rfl
  | del client inst => exact iff_of_true (h.del_follows client inst) trivial
  | set e => exact iff_of_true (h.set_follows e) trivial

/-! ## A failed call -/

/-- The table in memory, its number and the stored number are those of `t`. -/
structure Kept (t u : Table) : Prop where
  options : u.options = t.options
  num : u.num = t.num
  count : u.syscfg numKey = t.syscfg numKey

/-- `WanMgr_DmlDhcpv6cAddSentOption` changes nothing when it fails. -/
def Atomic (client : Nat) (allocates : Bool) (e : SentOption) (t : Table) : Prop :=
  (t.addSentOption client allocates e).1 = .failure → Kept t (t.addSentOption client allocates e).2

theorem atomic_iff (client : Nat) (allocates : Bool) (e : SentOption) (t : Table) :
    Atomic client allocates e t ↔ (client = t.client → allocates = true) := by
  by_cases hclient : client = t.client
  · subst hclient
    cases allocates with
    | false =>
      refine iff_of_false (fun hatomic => ?_) fun h => Bool.false_ne_true (h rfl)
      have hkept := hatomic (by rw [addSentOption_refused])
      rw [addSentOption_refused] at hkept
      exact absurd hkept.num (Nat.succ_ne_self t.num)
    | true =>
      refine iff_of_true (fun hfailure => ?_) fun _ => rfl
      rw [addSentOption_status] at hfailure
      cases hfailure
  · refine iff_of_true (fun _ => ?_) fun h => absurd h hclient
    rw [addSentOption_other hclient]
    exact ⟨rfl, rfl, rfl⟩

/-! ## Runs -/

theorem lists_run {es : List SentOption} {s t : Table} {cs : List Call} (hs : Lists es s)
    (hrun : (calls.restrict FindsMemory).Run s cs t) :
    t.client = s.client ∧ Lists (effects s.client cs es) t := by
  induction hrun with
  | nil => exact ⟨rfl, hs⟩
  | @cons u v c cs _ hstep ih =>
    obtain ⟨hclient, hlists⟩ := ih
    obtain ⟨hmemory, st, hperform⟩ := hstep
    obtain ⟨st', v', hperform', hkept, hlists'⟩ := (hlists.follows_iff c).mpr hmemory
    rw [hperform, Option.some.injEq, Prod.mk.injEq] at hperform'
    obtain ⟨-, rfl⟩ := hperform'
    rw [hclient] at hkept hlists'
    exact ⟨hkept, hlists'⟩

/-- A call that adds an entry is atomic exactly when it is not refused memory for its client. As long as
none is refused, the table holds the entries the calls leave, and every call that finds memory, and no
other, works on these entries alone. -/
theorem added_whole {es : List SentOption} {s t : Table} {cs : List Call} (hs : Lists es s)
    (hrun : (calls.restrict FindsMemory).Run s cs t) :
    (∀ client allocates e u, Atomic client allocates e u ↔ (client = u.client → allocates = true)) ∧
      Lists (effects s.client cs es) t ∧
        ∀ c, Follows c (effects s.client cs es) t ↔ FindsMemory c t := by
  obtain ⟨-, hlists⟩ := lists_run hs hrun
  exact ⟨atomic_iff, hlists, hlists.follows_iff⟩

namespace Example

def vendorOpts : SentOption :=
  { instanceNumber := 2, aliasName := "cpe-option-2", bEnabled := false, tag := 17, value := "00000de9" }

def both : Table := (added.addSentOption 1 true vendorOpts).2

/-- The first of both is deleted. -/
def deleted : Table := ((both.delSentOption 1 1).map Prod.snd).getD both

end Example

open Example in
theorem added_whole_deleted :
    (∀ client allocates e u, Atomic client allocates e u ↔ (client = u.client → allocates = true)) ∧
      Lists [vendorOpts] deleted ∧ ∀ c, Follows c [vendorOpts] deleted ↔ FindsMemory c deleted :=
  @added_whole [] empty deleted
    [.del 1 1, .add 1 true vendorOpts, .add 1 true vendorClass] ⟨rfl, rfl⟩
    (.cons (.cons (.cons .nil ⟨fun _ => rfl, .success, rfl⟩) ⟨fun _ => rfl, .success, rfl⟩)
      ⟨trivial, .success, rfl⟩)

/-! ## After a refused entry -/

/-- A search for one entry more than there is memory for ends at an entry or behind the last one. -/
theorem search_behind (inst : Nat) (options : List (Option SentOption)) :
    Table.search inst (options.length + 1) options = none ∨
      ∃ i old, i < options.length ∧
        Table.search inst (options.length + 1) options = some (some (i, old)) := by
  induction options with
  | nil => exact .inl rfl
  | cons cell options ih =>
    cases cell with
    | none => exact .inl rfl
    | some e =>
      rw [List.length_cons, Table.search]
      by_cases he : e.instanceNumber = inst
      · rw [if_pos he]
        exact .inr ⟨0, e, Nat.succ_pos _, rfl⟩
      · rw [if_neg he]
        obtain hnone | ⟨i, old, hi, hfound⟩ := ih
        · rw [hnone]
          exact .inl rfl
        · rw [hfound]
          exact .inr ⟨i + 1, old, Nat.succ_lt_succ hi, rfl⟩

/-- Entries that are moved up to the end of the memory and one further are read behind it. -/
theorem shift_behind (n : Nat) : ∀ (j : Nat) (t : Table), t.options.length ≤ j + (n + 1) →
    Table.shift (n + 1) j t = none := by
  induction n with
  | zero =>
    intro j t hlength
    rw [Table.shift, List.getElem?_eq_none hlength]
  | succ n ih =>
    intro j t hlength
    rw [Table.shift]
    split
    · refine ih (j + 1) _ ?_
      rw [List.length_set]
      omega
    · rfl

/-- Once an entry is refused, nothing can be deleted from a table that fills its memory: the number is
looked for, or the entries behind it are moved, one entry too far. -/
theorem del_after_refused {t : Table} (hfull : t.options.length = t.num) (e : SentOption) (inst : Nat) :
    (t.addSentOption t.client false e).2.delSentOption t.client inst = none := by
  simp only [addSentOption_refused, Table.delSentOption, ne_eq, not_true, if_false]
  rw [← hfull]
  obtain hnone | ⟨i, old, hi, hfound⟩ := search_behind inst t.options
  · rw [hnone]
  · have hcount : t.options.length + 1 - 1 - i = t.options.length - i - 1 + 1 := by omega
    rw [hfound]
    simp only [hcount]
    rw [shift_behind _ _ _ (by simp only; omega)]
    rfl

open Example in
/-- The refused entry is counted in an empty table, and a later deletion reads what is not there. -/
theorem refused_counted :
    ¬ Atomic 1 false vendorClass empty ∧
      (empty.addSentOption 1 false vendorClass).2.delSentOption 1 1 = none :=
  ⟨fun h => absurd (h rfl).num (by decide), rfl⟩

end WanManager.SentOptions
