import WanManager.Text.CString
import WanManager.Wire.Overlay

/-! # Buffers of characters

A buffer of fixed size into which `strncpy` writes a string of known length: the string up to its
first null, filled up with nulls to its length. What stands behind it stays there. -/

namespace WanManager.Text
open Wire

/-- The cells of a buffer. -/
structure Buffer (n : Nat) where
  cells : List Char
  size : cells.length = n
  deriving DecidableEq

/-- What `strncpy` writes of a string with the length of the string as its limit. -/
def padded (s : List Char) : List Char :=
  cString s ++ List.replicate (s.length - (cString s).length) '\x00'

theorem length_cString_le (s : List Char) : (cString s).length ≤ s.length :=
  (List.takeWhile_sublist _).length_le

@[simp] theorem length_padded (s : List Char) : (padded s).length = s.length := by
  have h := length_cString_le s
  simp only [padded, List.length_append, List.length_replicate]
  omega

theorem null_notMem_cString (s : List Char) : '\x00' ∉ cString s := by
  intro h
  simpa using List.mem_takeWhile_imp h

theorem cString_of_notMem {s : List Char} (h : '\x00' ∉ s) : cString s = s := by
  rw [cString, List.takeWhile_eq_self_iff]
  intro c hc
  simpa using fun he : c = '\x00' => h (he ▸ hc)

theorem cString_append_of_notMem {s : List Char} (h : '\x00' ∉ s) (t : List Char) :
    cString (s ++ t) = s ++ cString t := by
  apply List.takeWhile_append_of_pos
  intro c hc
  simpa using fun he : c = '\x00' => h (he ▸ hc)

theorem cString_null (s t : List Char) : cString (cString s ++ '\x00' :: t) = cString s := by
  rw [cString_append_of_notMem (null_notMem_cString s)]
  simp [cString]

theorem length_cString_lt {s : List Char} (h : '\x00' ∈ s) : (cString s).length < s.length := by
  obtain hlt | heq := Nat.lt_or_eq_of_le (length_cString_le s)
  · exact hlt
  · have hs : cString s = s := (List.takeWhile_sublist _).eq_of_length heq
    exact absurd h (hs ▸ null_notMem_cString s)

theorem padded_of_notMem {s : List Char} (h : '\x00' ∉ s) : padded s = s := by
  rw [padded, cString_of_notMem h, Nat.sub_self, List.replicate_zero, List.append_nil]

/-- A string that does not reach its own length is read back whatever is behind it. -/
theorem cString_padded_append {s : List Char} (h : '\x00' ∈ s) (t : List Char) :
    cString (padded s ++ t) = cString s := by
  have hlt := length_cString_lt h
  obtain ⟨k, hk⟩ := Nat.exists_eq_succ_of_ne_zero (n := s.length - (cString s).length) (by omega)
  rw [padded, hk, List.replicate_succ, List.append_assoc, List.cons_append]
  exact cString_null s _

theorem cString_padded_null (s t : List Char) : cString (padded s ++ '\x00' :: t) = cString s := by
  by_cases h : '\x00' ∈ s
  · exact cString_padded_append h _
  · rw [padded_of_notMem h, cString_append_of_notMem h, cString_of_notMem h]
    simp [cString]

namespace Buffer

variable {n : Nat}

/-- `memset` with 0 -/
def zero : Buffer n := ⟨List.replicate n '\x00', List.length_replicate⟩

/-- The C string a buffer holds. -/
def text (b : Buffer n) : List Char := cString b.cells

/-- Characters written to the start of a buffer. -/
def write (b : Buffer n) (p : List Char) (h : p.length ≤ n) : Buffer n where
  cells := overlay p b.cells
  size := by
    have hsize := b.size
    rw [overlay, List.length_append, List.length_drop]
    omega

/-- `strncpy` with the length of the string; `none` writes past the buffer. -/
def strncpy (b : Buffer n) (s : List Char) : Option (Buffer n) :=
  if h : s.length ≤ n then some (b.write (padded s) (by rwa [length_padded])) else none

/-- What is written is seen in some buffer. -/
theorem exists_write_ne {p : List Char} (hne : p ≠ []) (h : p.length ≤ n) :
    ∃ b : Buffer n, b.write p h ≠ b := by
  obtain ⟨c, p, rfl⟩ := List.exists_cons_of_ne_nil hne
  obtain ⟨k, rfl⟩ := Nat.exists_eq_succ_of_ne_zero (n := n) (by rintro rfl; simp at h)
  have hd : ∃ d : Char, d ≠ c := by
    by_cases hc : c = 'x'
    · exact ⟨'y', by rw [hc]; decide⟩
    · exact ⟨'x', Ne.symm hc⟩
  obtain ⟨d, hd⟩ := hd
  refine ⟨⟨List.replicate (k + 1) d, List.length_replicate⟩, fun he => ?_⟩
  have hhead := congrArg (fun b : Buffer (k + 1) => b.cells.head?) he
  simp only [write, overlay, List.cons_append, List.head?_cons, List.replicate_succ,
    Option.some_inj] at hhead
  exact hd hhead.symm

end Buffer

/-! ## One string over another -/

theorem reaching_map {α β : Type} {f : List α → List β} (hf : ∀ p, (f p).length = p.length)
    (ps : List (List α)) (i : Nat) : reaching (ps.map f) i = (reaching ps i).map f := by
  induction ps using List.reverseRecOn with
  | nil => rfl
  | append_singleton ps p ih =>
    rw [List.map_append, List.map_singleton, reaching_append, reaching_append, hf, ih]
    split <;> rfl

/-- The last of some strings shows nothing of the ones before it: it ends before its length, or
the last longer one does not reach behind it. -/
def LastShows (values : List (List Char)) : Prop :=
  ∀ v ∈ values.getLast?, '\x00' ∈ v ∨
    ∀ w ∈ reaching values.dropLast v.length, (cString w).length ≤ v.length

theorem cString_eq_nil_iff {s : List Char} : cString s = [] ↔ ∀ c ∈ s.head?, c = '\x00' := by
  cases s with
  | nil => simp [cString]
  | cons c s => by_cases h : c = '\x00' <;> simp [cString, h]

theorem getElem?_padded {s : List Char} {i : Nat} (h : i < s.length) :
    (padded s)[i]? = some '\x00' ↔ (cString s).length ≤ i := by
  rw [padded, List.getElem?_append]
  split
  · next hlt =>
    constructor
    · intro hget
      exact absurd (List.mem_of_getElem? hget) (null_notMem_cString s)
    · omega
  · next hge =>
    rw [List.getElem?_replicate, if_pos (by omega)]
    simpa using hge

/-- What is read of a cleared buffer after strings were written to it one after another: the last,
if that shows nothing of the others. -/
theorem cString_overlays (n : Nat) (values : List (List Char)) :
    cString (overlays (values.map padded) (List.replicate n '\x00')) =
      cString (values.getLast?.getD []) ↔ LastShows values := by
  induction values using List.reverseRecOn with
  | nil =>
    have hnil : cString (List.replicate n '\x00') = cString [] := by cases n <;> rfl
    simpa [LastShows] using hnil
  | append_singleton values v _ =>
    rw [List.map_append, List.map_singleton, overlays_append, overlays_cons, overlays_nil]
    simp only [LastShows, List.getLast?_append, List.getLast?_singleton, Option.some_or,
      Option.getD_some, List.dropLast_concat, Option.mem_some_iff, forall_eq']
    by_cases hnull : '\x00' ∈ v
    · simp [overlay, cString_padded_append hnull, hnull]
    · have hbehind := getElem?_overlays (values.map padded) (List.replicate n '\x00') v.length
      rw [reaching_map length_padded] at hbehind
      rw [overlay, padded_of_notMem hnull, cString_append_of_notMem hnull,
        cString_of_notMem hnull, List.append_right_eq_self, cString_eq_nil_iff, List.head?_drop,
        hbehind]
      simp only [hnull, false_or]
      cases hr : reaching values v.length with
      | none =>
        simp only [Option.map_none, Option.getD_none, List.getElem?_replicate]
        split <;> simp
      | some w =>
        have hw := (of_reaching hr).2
        have hget := getElem?_padded hw
        have hlt : v.length < (padded w).length := by simpa using hw
        have hsome := List.getElem?_eq_getElem hlt
        simp only [Option.map_some, Option.getD_some, Option.mem_some_iff, forall_eq', ← hget]
        rw [hsome]
        simp

end WanManager.Text
