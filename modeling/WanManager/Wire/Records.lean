import Mathlib.Algebra.Group.Nat.Defs
import Mathlib.Data.List.Basic

/-! # Aligned records

Records that begin with their own length, one after another in memory, each at a multiple of four
bytes. Numbers are in the order of the host's bytes. -/

namespace WanManager.Wire

/-! ## Numbers -/

inductive ByteOrder where
  | little | big
  deriving DecidableEq, Repr

/-- The number that bytes write, the least significant first. -/
def littleValue : List UInt8 → Nat
  | [] => 0
  | b :: bs => b.toNat + 256 * littleValue bs

/-- A number as `k` bytes, the least significant first. -/
def littleBytes : Nat → Nat → List UInt8
  | 0, _ => []
  | k + 1, n => .ofNat n :: littleBytes k (n / 256)

@[simp] theorem length_littleBytes (k n : Nat) : (littleBytes k n).length = k := by
  induction k generalizing n with
  | zero => rfl
  | succ k ih => rw [littleBytes, List.length_cons, ih]

theorem littleValue_littleBytes {k n : Nat} (h : n < 256 ^ k) :
    littleValue (littleBytes k n) = n := by
  induction k generalizing n with
  | zero =>
    rw [Nat.pow_zero] at h
    rw [littleBytes, littleValue]
    omega
  | succ k ih =>
    rw [Nat.pow_succ] at h
    rw [littleBytes, littleValue, ih (Nat.div_lt_of_lt_mul (by omega)), UInt8.toNat_ofNat']
    omega

def ByteOrder.value : ByteOrder → List UInt8 → Nat
  | .little, bs => littleValue bs
  | .big, bs => littleValue bs.reverse

def ByteOrder.bytes (order : ByteOrder) (k n : Nat) : List UInt8 :=
  match order with
  | .little => littleBytes k n
  | .big => (littleBytes k n).reverse

@[simp] theorem ByteOrder.length_bytes (order : ByteOrder) (k n : Nat) :
    (order.bytes k n).length = k := by
  cases order <;> simp [ByteOrder.bytes]

theorem ByteOrder.value_bytes (order : ByteOrder) {k n : Nat} (h : n < 256 ^ k) :
    order.value (order.bytes k n) = n := by
  cases order with
  | little => exact littleValue_littleBytes h
  | big =>
    rw [ByteOrder.bytes, ByteOrder.value, List.reverse_reverse]
    exact littleValue_littleBytes h

/-! ## Records -/

/-- Where a record begins: the bytes of its header and, of these, the first ones, which are its
length with the header. -/
structure Layout where
  header : Nat
  width : Nat
  width_pos : 0 < width
  width_le : width ≤ header

/-- The next multiple of four. -/
def align (n : Nat) : Nat := (n + 3) / 4 * 4

theorem le_align (n : Nat) : n ≤ align n := by
  rw [align]
  omega

/-- How a walk ends: with no whole record left, or behind the memory that was left, when the last
record is not filled up to a multiple of four. -/
inductive Stop where
  | done | past
  deriving DecidableEq, Repr

namespace Layout

variable (L : Layout) (order : ByteOrder)

/-- The length of the record that memory begins with. -/
def length (mem : List UInt8) : Nat := order.value (mem.take L.width)

/-- A record is in memory, with at least its header. -/
def Ok (mem : List UInt8) : Prop :=
  L.header ≤ mem.length ∧ L.header ≤ L.length order mem ∧ L.length order mem ≤ mem.length

instance (mem : List UInt8) : Decidable (L.Ok order mem) := inferInstanceAs (Decidable (_ ∧ _))

/-- The records of memory, one after another. -/
def records (mem : List UInt8) : List (List UInt8) × Stop :=
  if _ : L.Ok order mem then
    let len := L.length order mem
    if mem.length < align len then ([mem.take len], .past)
    else
      let r := records (mem.drop (align len))
      (mem.take len :: r.1, r.2)
  else ([], .done)
termination_by mem.length
decreasing_by
  have hle := le_align (L.length order mem)
  have hpos := L.width_pos
  have hwidth := L.width_le
  obtain ⟨hmem, hheader, -⟩ := ‹L.Ok order mem›
  rw [List.length_drop]
  omega

/-- Bytes that are a record. -/
def IsRecord (r : List UInt8) : Prop :=
  L.header ≤ r.length ∧ L.length order r = r.length

/-- A record, filled up. -/
def padded (r : List UInt8) : List UInt8 := r ++ List.replicate (align r.length - r.length) 0

theorem length_padded (r : List UInt8) : (padded r).length = align r.length := by
  have h := le_align r.length
  rw [padded, List.length_append, List.length_replicate]
  omega

variable {L order}

theorem IsRecord.length_append {r : List UInt8} (h : L.IsRecord order r) (mem : List UInt8) :
    L.length order (r ++ mem) = r.length := by
  have hwidth : L.width ≤ r.length := Nat.le_trans L.width_le h.1
  rw [Layout.length, List.take_append_of_le_length hwidth]
  exact h.2

/-- Records that have been written one after another are found again. -/
theorem records_flatMap {rs : List (List UInt8)} (h : ∀ r ∈ rs, L.IsRecord order r) :
    L.records order (rs.flatMap padded) = (rs, .done) := by
  induction rs with
  | nil =>
    have hno : ¬ L.Ok order [] := by
      rintro ⟨hheader, -, -⟩
      have hpos := L.width_pos
      have hwidth := L.width_le
      rw [List.length_nil] at hheader
      omega
    rw [List.flatMap_nil, records, dif_neg hno]
  | cons r rs ih =>
    have hr := h r (List.mem_cons_self ..)
    have hlen : L.length order (padded r ++ rs.flatMap padded) = r.length := by
      rw [padded, List.append_assoc, hr.length_append]
    have hle := le_align r.length
    have htotal : (padded r ++ rs.flatMap padded).length =
        align r.length + (rs.flatMap padded).length := by
      rw [List.length_append, length_padded]
    have hok : L.Ok order (padded r ++ rs.flatMap padded) := by
      have hheader := hr.1
      rw [Ok, hlen, htotal]
      omega
    have hroom : ¬ (padded r ++ rs.flatMap padded).length < align r.length := by omega
    have hdrop : (padded r ++ rs.flatMap padded).drop (align r.length) = rs.flatMap padded :=
      List.drop_left' (length_padded r)
    have htake : (padded r ++ rs.flatMap padded).take r.length = r := by
      rw [padded, List.append_assoc, List.take_left]
    rw [List.flatMap_cons, records, dif_pos hok]
    simp only [hlen, if_neg hroom, hdrop, htake, ih fun r hr => h r (List.mem_cons_of_mem _ hr)]

end Layout

end WanManager.Wire
