import Mathlib.Algebra.Group.Nat.Defs
import Mathlib.Data.List.Basic

/-! # Lists of options

A buffer of options, each with a type and a length of two bytes in network order before its
bytes. The walk over it yields the options one after another, each with all of the memory from
its first byte on, and tells how it ended. -/

namespace WanManager.Wire

/-- `ntohs` of two bytes -/
def ntohs (hi lo : UInt8) : Nat := hi.toNat * 256 + lo.toNat

/-- `htons`, as two bytes -/
def htons (n : Nat) : List UInt8 := [.ofNat (n / 256), .ofNat n]

theorem ntohs_htons {n : Nat} (h : n < 65536) : ntohs (.ofNat (n / 256)) (.ofNat n) = n := by
  simp only [ntohs, UInt8.toNat_ofNat']
  omega

/-- An option that was come upon: `cur` is memory from its first byte on. -/
structure Found where
  type : Nat
  len : Nat
  cur : List UInt8
  deriving DecidableEq, Repr

/-- The bytes of an option. -/
def Found.payload (o : Found) : List UInt8 := o.cur.take o.len

/-- How a walk ends: less than a header is left, or an option is longer than what is left. -/
inductive Ending where
  | done | overrun
  deriving DecidableEq, Repr

/-- The walk over the next `left` bytes of memory. -/
def walk (left : Nat) (rest : List UInt8) : List Found × Ending :=
  if 4 ≤ left then
    match rest with
    | t₁ :: t₀ :: l₁ :: l₀ :: cur =>
      let len := ntohs l₁ l₀
      if 4 + len ≤ left then
        let r := walk (left - (4 + len)) (cur.drop len)
        (⟨ntohs t₁ t₀, len, cur⟩ :: r.1, r.2)
      else ([], .overrun)
    | _ => ([], .done)
  else ([], .done)
termination_by left
decreasing_by omega

theorem walk_of_lt {left : Nat} (h : left < 4) (rest : List UInt8) : walk left rest = ([], .done) := by
  rw [walk.eq_def, if_neg (by omega)]

theorem walk_cons {left : Nat} {t₁ t₀ l₁ l₀ : UInt8} {cur : List UInt8}
    (h : 4 + ntohs l₁ l₀ ≤ left) :
    walk left (t₁ :: t₀ :: l₁ :: l₀ :: cur) =
      (⟨ntohs t₁ t₀, ntohs l₁ l₀, cur⟩ ::
          (walk (left - (4 + ntohs l₁ l₀)) (cur.drop (ntohs l₁ l₀))).1,
        (walk (left - (4 + ntohs l₁ l₀)) (cur.drop (ntohs l₁ l₀))).2) := by
  rw [walk, if_pos (by omega)]
  simp only [h, if_true]

theorem walk_overrun {left : Nat} {t₁ t₀ l₁ l₀ : UInt8} {cur : List UInt8} (h4 : 4 ≤ left)
    (h : left < 4 + ntohs l₁ l₀) : walk left (t₁ :: t₀ :: l₁ :: l₀ :: cur) = ([], .overrun) := by
  rw [walk, if_pos h4]
  simp only [Nat.not_le.mpr h, if_false]

/-- What is come upon is in memory. -/
theorem len_le_of_mem_walk {left : Nat} {rest : List UInt8} (h : left ≤ rest.length) :
    ∀ o ∈ (walk left rest).1, o.len ≤ o.cur.length := by
  induction left using Nat.strongRecOn generalizing rest with
  | ind left ih =>
    by_cases h4 : 4 ≤ left
    · match rest, h with
      | t₁ :: t₀ :: l₁ :: l₀ :: cur, h =>
        simp only [List.length_cons] at h
        by_cases hlen : 4 + ntohs l₁ l₀ ≤ left
        · rw [walk_cons hlen, List.forall_mem_cons]
          refine ⟨?_, ih _ (by omega) ?_⟩
          · show ntohs l₁ l₀ ≤ cur.length
            omega
          · rw [List.length_drop]
            omega
        · rw [walk_overrun h4 (by omega)]
          simp
      | [], h | [_], h | [_, _], h | [_, _, _], h => simp at h; omega
    · rw [walk_of_lt (by omega)]
      simp

example : walk 5 [0, 89, 0, 1, 7, 0] = ([⟨89, 1, [7, 0]⟩], .done) := by decide +kernel

/-! ## Encoding -/

/-- An option that can be encoded. -/
structure Opt where
  type : Nat
  bytes : List UInt8
  type_lt : type < 65536
  length_lt : bytes.length < 65536

def Opt.encode (o : Opt) : List UInt8 := htons o.type ++ htons o.bytes.length ++ o.bytes

def encodeAll (os : List Opt) : List UInt8 := os.flatMap Opt.encode

@[simp] theorem encodeAll_nil : encodeAll [] = [] := rfl

@[simp] theorem encodeAll_cons (o : Opt) (os : List Opt) :
    encodeAll (o :: os) = o.encode ++ encodeAll os := rfl

@[simp] theorem Opt.length_encode (o : Opt) : o.encode.length = 4 + o.bytes.length := by
  simp [encode, htons]
  omega

/-- What a walk comes upon in an encoding that has `slack` behind it. -/
def foundIn (slack : List UInt8) : List Opt → List Found
  | [] => []
  | o :: os => ⟨o.type, o.bytes.length, o.bytes ++ (encodeAll os ++ slack)⟩ :: foundIn slack os

/-- The walk over an encoding comes upon each option and ends with the last. -/
theorem walk_encodeAll (os : List Opt) (slack : List UInt8) :
    walk (encodeAll os).length (encodeAll os ++ slack) = (foundIn slack os, .done) := by
  induction os with
  | nil => exact walk_of_lt (by decide) _
  | cons o os ih =>
    have htype := ntohs_htons o.type_lt
    have hlen := ntohs_htons o.length_lt
    have hbytes : encodeAll (o :: os) ++ slack = .ofNat (o.type / 256) :: .ofNat o.type ::
        .ofNat (o.bytes.length / 256) :: .ofNat o.bytes.length ::
          (o.bytes ++ (encodeAll os ++ slack)) := by
      simp [Opt.encode, htons]
    have hleft : (encodeAll (o :: os)).length = 4 + o.bytes.length + (encodeAll os).length := by
      simp
    rw [hbytes, hleft, walk_cons (by rw [hlen]; omega), htype, hlen, List.drop_left,
      Nat.add_sub_cancel_left, ih]
    rfl

end WanManager.Wire
