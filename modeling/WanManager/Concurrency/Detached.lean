import Mathlib.Logic.Relation
import Mathlib.Tactic.ByContra

/-! # Detached threads

Requests that come one after the other, each carried out by a thread of its own. Nothing
orders the threads: any that was started may act next. A register that is only written to
then ends with the last write of one of them, and with that of any of them.
-/

namespace WanManager.Concurrency

variable {ρ α σ β : Type}

/-- The requests to come, what each thread that was started has left to do, and the
actions done so far. -/
structure Crowd (ρ α : Type) where
  arriving : List ρ
  running : List (List α) := []
  done : List α := []

namespace Crowd

inductive Step (program : ρ → List α) : Crowd ρ α → Crowd ρ α → Prop
  | arrive (r rs ts h) : Step program ⟨r :: rs, ts, h⟩ ⟨rs, ts ++ [program r], h⟩
  | act (rs before a rest after h) :
      Step program ⟨rs, before ++ (a :: rest) :: after, h⟩ ⟨rs, before ++ rest :: after, h ++ [a]⟩

abbrev Steps (program : ρ → List α) : Crowd ρ α → Crowd ρ α → Prop :=
  Relation.ReflTransGen (Step program)

/-- The threads of all requests have ended, after doing `h` in this order. -/
def Completes (program : ρ → List α) (rs : List ρ) (h : List α) : Prop :=
  ∃ ts, Steps program ⟨rs, [], []⟩ ⟨[], ts, h⟩ ∧ ∀ t ∈ ts, t = []

variable {program : ρ → List α} {rs : List ρ}

theorem steps_arrive (program : ρ → List α) (rs : List ρ) (ts : List (List α)) (h : List α) :
    Steps program ⟨rs, ts, h⟩ ⟨[], ts ++ rs.map program, h⟩ := by
  induction rs generalizing ts with
  | nil => simpa using .refl
  | cons r rs ih =>
    have hrest := ih (ts ++ [program r])
    rw [List.append_assoc] at hrest
    exact .head (.arrive r rs ts h) hrest

/-- One thread, to its end. -/
theorem steps_thread (program : ρ → List α) (rs : List ρ) (before after : List (List α)) (t h : List α) :
    Steps program ⟨rs, before ++ t :: after, h⟩ ⟨rs, before ++ [] :: after, h ++ t⟩ := by
  induction t generalizing h with
  | nil => simpa using .refl
  | cons a t ih =>
    have hrest := ih (h ++ [a])
    rw [List.append_assoc] at hrest
    exact .head (.act rs before a t after h) hrest

/-- Some threads, one after the other. -/
theorem steps_threads (program : ρ → List α) (rs : List ρ) (before ts after : List (List α))
    (h : List α) :
    Steps program ⟨rs, before ++ (ts ++ after), h⟩
      ⟨rs, before ++ (ts.map (fun _ => []) ++ after), h ++ ts.flatten⟩ := by
  induction ts generalizing before h with
  | nil => simpa using .refl
  | cons t ts ih =>
    have hfirst := steps_thread program rs before (ts ++ after) t h
    have hrest := ih (before ++ [[]]) (h ++ t)
    simp only [List.append_assoc, List.singleton_append] at hrest
    exact hfirst.trans hrest

/-- The thread of any request may be the last. -/
theorem completes_last (program : ρ → List α) {r : ρ} (hr : r ∈ rs) :
    ∃ h, Completes program rs (h ++ program r) := by
  obtain ⟨l, l', rfl⟩ := List.append_of_mem hr
  have hl := steps_threads program [] [] (l.map program)
    (program r :: l'.map program) []
  have hl' := steps_threads program []
    ((l.map program).map (fun _ => []) ++ [program r]) (l'.map program) []
    (l.map program).flatten
  have hr := steps_thread program [] ((l.map program).map fun _ => [])
    ((l'.map program).map fun _ => []) (program r)
    ((l.map program).flatten ++ (l'.map program).flatten)
  have hall := steps_arrive program (l ++ r :: l') [] []
  simp only [List.map_append, List.map_cons, List.nil_append, List.append_nil,
    List.append_assoc, List.singleton_append] at hall hl hl' hr
  refine ⟨(l.map program).flatten ++ (l'.map program).flatten, _,
    ((hall.trans hl).trans hl').trans (by simpa using hr), fun t ht => ?_⟩
  simp only [List.mem_append, List.mem_cons, List.mem_map] at ht
  obtain ⟨_, _, rfl⟩ | rfl | ⟨_, _, rfl⟩ := ht <;> rfl

/-! ## The last write -/

/-- What the last of the actions that write puts there. -/
def lastWrite (w : α → Option β) (h : List α) : Option β := (h.filterMap w).getLast?

variable {w : α → Option β}

theorem lastWrite_append (h h' : List α) :
    lastWrite w (h ++ h') = (lastWrite w h').or (lastWrite w h) := by
  rw [lastWrite, List.filterMap_append, List.getLast?_append]
  rfl

theorem lastWrite_cons (a : α) (h : List α) : lastWrite w (a :: h) = (lastWrite w h).or (w a) := by
  rw [← List.singleton_append, lastWrite_append]
  cases hw : w a <;> simp [lastWrite, hw]

theorem lastWrite_eq_none {h : List α} : lastWrite w h = none ↔ ∀ a ∈ h, w a = none := by
  simp [lastWrite]

theorem lastWrite_mem {h : List α} {b : β} (hb : lastWrite w h = some b) : ∃ a ∈ h, w a = some b := by
  obtain ⟨a, ha, hab⟩ := List.mem_filterMap.mp (List.mem_of_getLast? hb)
  exact ⟨a, ha, hab⟩

/-- Where the last write so far comes from, as long as no thread is to write again. -/
structure Provenance (program : ρ → List α) (w : α → Option β) (rs : List ρ) (c : Crowd ρ α) :
    Prop where
  arriving : ∀ r ∈ c.arriving, r ∈ rs
  running : ∀ t ∈ c.running, ∃ r ∈ rs, t <:+ program r
  unwritten : lastWrite w c.done = none → ∀ r ∈ rs, lastWrite w (program r) ≠ none →
    r ∈ c.arriving ∨ ∃ t ∈ c.running, lastWrite w t ≠ none
  written : ∀ b, lastWrite w c.done = some b →
    (∃ r ∈ rs, lastWrite w (program r) = some b) ∨ ∃ t ∈ c.running, lastWrite w t ≠ none

theorem Provenance.step {c c' : Crowd ρ α} (h : Provenance program w rs c)
    (hstep : Step program c c') : Provenance program w rs c' := by
  cases hstep with
  | arrive r rs' ts d =>
    have hr := h.arriving r List.mem_cons_self
    refine ⟨fun q hq => h.arriving q (List.mem_cons_of_mem r hq), fun t ht => ?_,
      fun hnone q hq hw => ?_, fun b hb => ?_⟩
    · simp only [List.mem_append, List.mem_singleton] at ht
      obtain ht | rfl := ht
      · exact h.running t ht
      · exact ⟨r, hr, List.suffix_refl _⟩
    · obtain hmem | ⟨t, ht, hwt⟩ := h.unwritten hnone q hq hw
      · obtain rfl | hmem := List.mem_cons.mp hmem
        · exact .inr ⟨program q, by simp, hw⟩
        · exact .inl hmem
      · exact .inr ⟨t, List.mem_append_left _ ht, hwt⟩
    · obtain hdone | ⟨t, ht, hwt⟩ := h.written b hb
      · exact .inl hdone
      · exact .inr ⟨t, List.mem_append_left _ ht, hwt⟩
  | act rs' before a rest after d =>
    have hold : ∀ t ∈ before ++ (a :: rest) :: after, lastWrite w t ≠ none → w a = none →
        ∃ t ∈ before ++ rest :: after, lastWrite w t ≠ none := by
      intro t ht hwt ha
      simp only [List.mem_append, List.mem_cons] at ht
      obtain ht | rfl | ht := ht
      · exact ⟨t, by simp [ht], hwt⟩
      · rw [lastWrite_cons, ha, Option.or_none] at hwt
        exact ⟨rest, by simp, hwt⟩
      · exact ⟨t, by simp [ht], hwt⟩
    obtain ⟨r, hr, hsuffix⟩ := h.running (a :: rest) (by simp)
    have hadd : lastWrite w (d ++ [a]) = (w a).or (lastWrite w d) := by
      rw [lastWrite_append, lastWrite_cons]
      rfl
    refine ⟨h.arriving, fun t ht => ?_, fun hnone q hq hw => ?_, fun b hb => ?_⟩
    · simp only [List.mem_append, List.mem_cons] at ht
      obtain ht | rfl | ht := ht
      · exact h.running t (by simp [ht])
      · exact ⟨r, hr, (List.suffix_cons a t).trans hsuffix⟩
      · exact h.running t (by simp [ht])
    · rw [hadd, Option.or_eq_none_iff] at hnone
      obtain hmem | ⟨t, ht, hwt⟩ := h.unwritten hnone.2 q hq hw
      · exact .inl hmem
      · exact .inr (hold t ht hwt hnone.1)
    · cases ha : w a with
      | none =>
        rw [hadd, ha, Option.none_or] at hb
        exact (h.written b hb).imp_right fun ⟨t, ht, hwt⟩ => hold t ht hwt ha
      | some b' =>
        rw [hadd, ha, Option.some_or] at hb
        cases hrest : lastWrite w rest with
        | none =>
          refine .inl ⟨r, hr, ?_⟩
          obtain ⟨l, hl⟩ := hsuffix
          rw [← hl, lastWrite_append, lastWrite_cons, hrest, ha]
          exact hb
        | some b'' => exact .inr ⟨rest, by simp, by simp [hrest]⟩

theorem Provenance.start : Provenance program w rs ⟨rs, [], []⟩ where
  arriving _ hr := hr
  running _ ht := by cases ht
  unwritten _ _ hr _ := .inl hr
  written _ hb := by cases hb

theorem Provenance.of_steps {c : Crowd ρ α} (h : Steps program ⟨rs, [], []⟩ c) :
    Provenance program w rs c := by
  induction h with
  | refl => exact .start
  | tail _ hstep ih => exact ih.step hstep

theorem Completes.written {h : List α} {b : β} (hc : Completes program rs h)
    (hb : lastWrite w h = some b) : ∃ r ∈ rs, lastWrite w (program r) = some b := by
  obtain ⟨ts, hsteps, hnil⟩ := hc
  obtain hr | ⟨t, ht, hwt⟩ := (Provenance.of_steps hsteps).written b hb
  · exact hr
  · rw [hnil t ht] at hwt
    exact absurd rfl hwt

theorem Completes.unwritten {h : List α} (hc : Completes program rs h)
    (hnone : lastWrite w h = none) : ∀ r ∈ rs, lastWrite w (program r) = none := by
  obtain ⟨ts, hsteps, hnil⟩ := hc
  intro r hr
  by_contra hw
  obtain hmem | ⟨t, ht, hwt⟩ := (Provenance.of_steps hsteps).unwritten hnone r hr hw
  · cases hmem
  · rw [hnil t ht] at hwt
    exact hwt rfl

end Crowd

/-! ## Registers -/

/-- A part of the store that an action either overwrites or leaves alone, in the stores of
an invariant. -/
structure Register (f : σ → α → σ) (I : σ → Prop) (β : Type) where
  read : σ → β
  write : α → Option β
  keeps : ∀ s a, I s → I (f s a)
  reads : ∀ s a, I s → read (f s a) = (write a).getD (read s)

namespace Register
open Crowd

variable {f : σ → α → σ} {I : σ → Prop} {program : ρ → List α} {rs : List ρ}

theorem read_foldl (R : Register f I β) (h : List α) {s : σ} (hs : I s) :
    R.read (h.foldl f s) = (lastWrite R.write h).getD (R.read s) := by
  induction h generalizing s with
  | nil => rfl
  | cons a h ih =>
    rw [List.foldl_cons, ih (R.keeps s a hs), R.reads s a hs, lastWrite_cons]
    cases lastWrite R.write h <;> rfl

/-- A register has the value `b` after every run when every thread that writes it leaves
`b`, or when none does and it had that value before. -/
theorem always_iff (R : Register f I β) {s : σ} (hs : I s) (b : β) :
    (∀ h, Completes program rs h → R.read (h.foldl f s) = b) ↔
      (∀ r ∈ rs, ∀ c, lastWrite R.write (program r) = some c → c = b) ∧
        ((∀ r ∈ rs, lastWrite R.write (program r) = none) → R.read s = b) := by
  constructor
  · intro hall
    refine ⟨fun r hr c hc => ?_, fun hnone => ?_⟩
    · obtain ⟨h, hcomp⟩ := completes_last program hr
      have hread := hall _ hcomp
      rw [R.read_foldl _ hs, lastWrite_append, hc] at hread
      exact hread
    · obtain ⟨h, hcomp⟩ : ∃ h, Completes program rs h := by
        cases rs with
        | nil => exact ⟨[], [], .refl, by simp⟩
        | cons r rs =>
          obtain ⟨h, hcomp⟩ := completes_last program (show r ∈ r :: rs from List.mem_cons_self)
          exact ⟨_, hcomp⟩
      have hread := hall h hcomp
      rw [R.read_foldl _ hs] at hread
      cases hw : lastWrite R.write h with
      | none => rwa [hw] at hread
      | some c =>
        obtain ⟨r, hr, hc⟩ := hcomp.written hw
        rw [hnone r hr] at hc
        cases hc
  · rintro ⟨hwrites, hnone⟩ h hcomp
    rw [R.read_foldl _ hs]
    cases hw : lastWrite R.write h with
    | none => exact hnone (hcomp.unwritten hw)
    | some c =>
      obtain ⟨r, hr, hc⟩ := hcomp.written hw
      exact hwrites r hr c hc

end Register

end WanManager.Concurrency
