import WanManager.MaptSafety

/-! # The text of option 95 in its buffer

`CosaDmlMaptConvertStringToHexStream` writes the bytes over the text that it reads. Its two
pointers are followed through memory, with everything that they are used for. -/

namespace WanManager
open Wire

namespace Mapt

/-! ## The code -/

/-- A byte at an index into the buffer, or the two pointers where they have come to. -/
inductive TextAccess where
  | read (i : Int)
  | write (i : Int)
  | pointers (pReadBf pWriteBf : Nat)
  deriving DecidableEq, Repr

/-- Inside of a text with its NUL at `n`. -/
def TextAccess.Inside (n : Nat) : TextAccess → Prop
  | read i => 0 ≤ i ∧ i ≤ n
  | write i => 0 ≤ i ∧ i ≤ n
  | pointers pReadBf pWriteBf => pReadBf ≤ n ∧ pWriteBf ≤ pReadBf

instance (n : Nat) : DecidablePred (TextAccess.Inside n)
  | .read _ => inferInstanceAs (Decidable (_ ∧ _))
  | .write _ => inferInstanceAs (Decidable (_ ∧ _))
  | .pointers _ _ => inferInstanceAs (Decidable (_ ∧ _))

def readText (mem : List UInt8) (i : Int) : Logged TextAccess UInt8 :=
  .access (.read i) (if 0 ≤ i then mem[i.toNat]? else none)

/-- The memory after a byte was written. -/
def writeText (mem : List UInt8) (i : Int) (b : UInt8) : Logged TextAccess (List UInt8) :=
  .access (.write i) (if 0 ≤ i ∧ i < mem.length then some (mem.set i.toNat b) else none)

/-- The pointers are moved. -/
def moveTo (pReadBf pWriteBf : Nat) : Logged TextAccess Unit :=
  .access (.pointers pReadBf pWriteBf) (some ())

/-- `pReadBf` after a colon was passed over. -/
def digitsAt (pReadBf : Nat) (c : UInt8) : Nat := if c = 58 then pReadBf + 1 else pReadBf

/-- The loop, with the memory, `pWriteBf` and `*uiOptionBufLen` that it ends with. -/
def decodeLoop (mem : List UInt8) (pReadBf pWriteBf uiOptionBufLen : Nat) :
    Logged TextAccess (List UInt8 × Nat × Nat) :=
  if h : pReadBf < mem.length then do
    let c ← readText mem pReadBf
    if c = 0 then return (mem, pWriteBf, uiOptionBufLen)
    else
      let next ← readText mem (pReadBf + 1)
      if next = 0 then return (mem, pWriteBf, uiOptionBufLen)
      else
        let pReadBf' := digitsAt pReadBf c
        moveTo pReadBf' pWriteBf
        let hi ← readText mem pReadBf'
        let lo ← readText mem (pReadBf' + 1)
        let _ ← writeText mem pWriteBf (hexByte hi lo)
        moveTo (pReadBf' + 2) (pWriteBf + 1)
        decodeLoop (mem.set pWriteBf (hexByte hi lo)) (pReadBf' + 2) (pWriteBf + 1)
          ((uiOptionBufLen + 1) % 65536)
  else .access (.read pReadBf) none
termination_by mem.length - pReadBf
decreasing_by
  rw [List.length_set]
  unfold digitsAt
  split <;> omega

/-- The quote at the end of the text is overwritten. -/
def closeQuote (mem : List UInt8) (pReadBf : Nat) : Logged TextAccess (List UInt8) := do
  let last : Int := pReadBf + (strlen (mem.drop pReadBf) : Int) - 1
  let c ← readText mem last
  if c = 39 then writeText mem last 0 else return mem

/-- `CosaDmlMaptConvertStringToHexStream` with its accesses; the caller's `uiOptionBufLen` is 0. -/
def convertInPlace (mem : List UInt8) : Logged TextAccess (List UInt8 × Nat) := do
  let c ← readText mem 0
  let pReadBf := if c = 39 then 1 else 0
  moveTo pReadBf 0
  let mem ← closeQuote mem pReadBf
  let (mem, pWriteBf, uiOptionBufLen) ← decodeLoop mem pReadBf 0 0
  let mem ← writeText mem pWriteBf 0
  return (mem, uiOptionBufLen)

/-! ## What it yields -/

@[simp] theorem value_readText (mem : List UInt8) (i : Nat) :
    (readText mem i).value = mem[i]? := by
  simp [readText]

theorem value_writeText {mem : List UInt8} {i : Nat} (h : i < mem.length) (b : UInt8) :
    (writeText mem i b).value = some (mem.set i b) := by
  simp [writeText, h]

/-- What the loop yields for the bytes of the text that is left. -/
def decoded (mem : List UInt8) (pWriteBf uiOptionBufLen : Nat) (bytes : List UInt8) :
    List UInt8 × Nat × Nat :=
  (mem.take pWriteBf ++ bytes ++ mem.drop (pWriteBf + bytes.length), pWriteBf + bytes.length,
    (uiOptionBufLen + bytes.length) % 65536)

theorem decoded_nil {mem : List UInt8} {w len : Nat} (h : len < 65536) :
    decoded mem w len [] = (mem, w, len) := by
  simp [decoded, Nat.mod_eq_of_lt h]

/-- A byte that was written before the others. -/
theorem decoded_cons {mem : List UInt8} {w len : Nat} (hw : w < mem.length) (b : UInt8)
    (bytes : List UInt8) :
    decoded (mem.set w b) (w + 1) ((len + 1) % 65536) bytes = decoded mem w len (b :: bytes) := by
  have htake : (mem.set w b).take (w + 1) = mem.take w ++ [b] := by
    rw [List.take_succ_eq_append_getElem (by simpa using hw), List.getElem_set_self,
      List.take_set_of_le (le_refl w)]
  have hdrop : (mem.set w b).drop (w + 1 + bytes.length) = mem.drop (w + (b :: bytes).length) := by
    rw [List.drop_set_of_lt (by omega), List.length_cons, Nat.add_assoc, Nat.add_comm 1]
  unfold decoded
  rw [htake, hdrop, List.length_cons, List.append_assoc (mem.take w), List.singleton_append]
  congr 2
  · omega
  · omega

/-! ## A turn of the loop -/

theorem lt_of_drop {mem : List UInt8} {r : Nat} {c : UInt8} {rest : List UInt8}
    (h : mem.drop r = c :: rest) : r < mem.length := by
  by_contra hge
  simp [List.drop_eq_nil_of_le (Nat.le_of_not_lt hge)] at h

theorem readText_first {mem rest : List UInt8} {r : Nat} {c : UInt8} (h : mem.drop r = c :: rest) :
    readText mem r = .access (.read r) (some c) := by
  have hget : mem[r]? = some c := by
    have h0 : (mem.drop r)[0]? = mem[r + 0]? := List.getElem?_drop
    rw [h] at h0
    exact h0.symm
  rw [readText, if_pos (Int.natCast_nonneg _), Int.toNat_natCast, hget]

theorem readText_second {mem rest : List UInt8} {r : Nat} {c c' : UInt8}
    (h : mem.drop r = c :: c' :: rest) :
    readText mem (r + 1) = .access (.read (r + 1)) (some c') := by
  have hdrop : mem.drop (r + 1) = c' :: rest := by
    rw [← List.drop_drop, h]
    rfl
  exact readText_first hdrop

/-- No character is left. -/
theorem decodeLoop_nil {mem rest : List UInt8} {r w len : Nat} (h : mem.drop r = 0 :: rest) :
    decodeLoop mem r w len = ⟨[.read r], some (mem, w, len)⟩ := by
  rw [decodeLoop, dif_pos (lt_of_drop h), readText_first h, Logged.access_bind,
    if_pos rfl]
  rfl

/-- One character is left. -/
theorem decodeLoop_last {mem rest : List UInt8} {r w len : Nat} {c : UInt8} (hc : c ≠ 0)
    (h : mem.drop r = c :: 0 :: rest) :
    decodeLoop mem r w len = ⟨[.read r, .read (r + 1)], some (mem, w, len)⟩ := by
  rw [decodeLoop, dif_pos (lt_of_drop h), readText_first h, Logged.access_bind,
    if_neg hc, readText_second h, Logged.access_bind, if_pos rfl]
  rfl

/-- A turn with two digits. -/
theorem decodeLoop_pair {mem more rest : List UInt8} {r w len : Nat} {c next hi lo : UInt8}
    (hc : c ≠ 0) (hnext : next ≠ 0) (h : mem.drop r = c :: next :: more)
    (hdigits : mem.drop (digitsAt r c) = hi :: lo :: rest) (hw : w ≤ r) :
    decodeLoop mem r w len =
      let later := decodeLoop (mem.set w (hexByte hi lo)) (digitsAt r c + 2) (w + 1)
        ((len + 1) % 65536)
      ⟨[.read r, .read (r + 1), .pointers (digitsAt r c) w, .read (digitsAt r c),
          .read (digitsAt r c + 1), .write w, .pointers (digitsAt r c + 2) (w + 1)] ++ later.log,
        later.value⟩ := by
  have hlt := lt_of_drop h
  have hwrite : writeText mem w (hexByte hi lo) =
      .access (.write w) (some (mem.set w (hexByte hi lo))) := by
    rw [writeText, if_pos (by omega), Int.toNat_natCast]
  rw [decodeLoop, dif_pos hlt, readText_first h, Logged.access_bind,
    if_neg hc, readText_second h, Logged.access_bind, if_neg hnext]
  simp only [moveTo, Logged.access_bind, readText_first hdigits, readText_second hdigits, hwrite,
    List.cons_append, List.nil_append]

/-- A pair of characters with a NUL among them ends the text. -/
theorem hexStream_end {c₁ c₂ : UInt8} (h : c₁ = 0 ∨ c₂ = 0) (rest : List UInt8) :
    hexStream (c₁ :: c₂ :: rest) = some [] := by
  rw [hexStream.eq_def]
  simp only [h, if_true]

theorem hexStream_colon {c₂ : UInt8} (h : c₂ ≠ 0) (c₃ : UInt8) (rest : List UInt8) :
    hexStream (58 :: c₂ :: c₃ :: rest) = (hexStream rest).map (hexByte c₂ c₃ :: ·) := by
  rw [hexStream.eq_def]
  simp [h]

theorem hexStream_pair {c₁ c₂ : UInt8} (h₁ : c₁ ≠ 0) (h₂ : c₂ ≠ 0) (hcolon : c₁ ≠ 58)
    (rest : List UInt8) :
    hexStream (c₁ :: c₂ :: rest) = (hexStream rest).map (hexByte c₁ c₂ :: ·) := by
  rw [hexStream.eq_def]
  simp [h₁, h₂, hcolon]

theorem value_readText_end {mem : List UInt8} {i : Nat} (h : mem.drop i = []) :
    (readText mem i).value = none := by
  have hle : mem.length ≤ i := List.drop_eq_nil_iff.mp h
  rw [value_readText, List.getElem?_eq_none hle]

/-- A text that ends without a NUL is read past its memory. -/
theorem value_decodeLoop_end {mem : List UInt8} {r w len : Nat} {c next : UInt8} (hc : c ≠ 0) :
    (mem.drop r = [] ∨ mem.drop r = [c] ∨ c = 58 ∧ mem.drop r = [c, next] ∧ next ≠ 0) →
      (decodeLoop mem r w len).value = none := by
  have hafter (i k : Nat) (l : List UInt8) (h : mem.drop i = l) (hl : l.length ≤ k) :
      mem.drop (i + k) = [] := by
    rw [← List.drop_drop, h, List.drop_eq_nil_of_le hl]
  rintro (h | h | ⟨rfl, h, hnext⟩)
  · have hlt : ¬ r < mem.length := by simpa using h
    rw [decodeLoop, dif_neg hlt]
    rfl
  · have hnone := value_readText_end (hafter r 1 [c] h (le_refl 1))
    rw [decodeLoop, dif_pos (lt_of_drop h), readText_first h, Logged.access_bind, if_neg hc]
    simp only [Logged.value_bind]
    rw [← Int.natCast_succ, hnone]
    rfl
  · have hnone := value_readText_end (hafter r 2 [58, next] h (le_refl 2))
    have hhi := readText_second h
    rw [decodeLoop, dif_pos (lt_of_drop h), readText_first h, Logged.access_bind, if_neg hc,
      hhi, Logged.access_bind, if_neg hnext]
    simp only [moveTo, Logged.access_bind, digitsAt, if_true, Logged.value_bind]
    have hcast : ((r + 1 : Nat) : Int) = r + 1 := by omega
    have hcast' : ((r + 1 : Nat) : Int) + 1 = (r + 2 : Nat) := by omega
    rw [hcast', hnone, hcast, hhi]
    rfl

/-- The bytes that are written lie in front of what is still read. -/
theorem value_decodeLoop {mem : List UInt8} {r w len : Nat} (hw : w ≤ r) (hlen : len < 65536) :
    (decodeLoop mem r w len).value = (hexStream (mem.drop r)).map (decoded mem w len) := by
  induction hn : mem.length - r using Nat.strongRecOn generalizing mem r w len with
  | ind n ih =>
    subst hn
    have hpair {c next hi lo : UInt8} {more rest : List UInt8} (hc : c ≠ 0) (hnext : next ≠ 0)
        (h : mem.drop r = c :: next :: more)
        (hdigits : mem.drop (digitsAt r c) = hi :: lo :: rest) :
        (decodeLoop mem r w len).value =
          ((hexStream rest).map (hexByte hi lo :: ·)).map (decoded mem w len) := by
      have hlt := lt_of_drop h
      have hr : r ≤ digitsAt r c := by
        unfold digitsAt
        split <;> omega
      have hrest : (mem.set w (hexByte hi lo)).drop (digitsAt r c + 2) = rest := by
        rw [List.drop_set_of_lt (by omega), ← List.drop_drop, hdigits]
        rfl
      rw [decodeLoop_pair hc hnext h hdigits hw]
      simp only
      rw [ih _ (by rw [List.length_set]; omega) (by omega) (Nat.mod_lt _ (by decide)) rfl, hrest,
        Option.map_map]
      congr 1
      funext bytes
      exact decoded_cons (by omega) _ bytes
    match htext : mem.drop r with
    | [] =>
      rw [@value_decodeLoop_end _ _ _ _ 1 1 (by decide) (.inl htext)]
      rfl
    | [c] =>
      by_cases hc : c = 0
      · subst hc
        rw [decodeLoop_nil htext]
        simp [hexStream, decoded_nil hlen]
      · rw [@value_decodeLoop_end _ _ _ _ c 1 hc (.inr (.inl htext))]
        simp [hexStream, hc]
    | c₁ :: c₂ :: rest =>
      by_cases h₁ : c₁ = 0
      · subst h₁
        rw [decodeLoop_nil htext, hexStream_end (.inl rfl), Option.map_some, decoded_nil hlen]
      by_cases h₂ : c₂ = 0
      · subst h₂
        rw [decodeLoop_last h₁ htext, hexStream_end (.inr rfl), Option.map_some, decoded_nil hlen]
      by_cases hcolon : c₁ = 58
      · subst hcolon
        cases rest with
        | nil =>
          rw [value_decodeLoop_end h₁ (.inr (.inr ⟨rfl, htext, h₂⟩))]
          simp [hexStream, h₂]
        | cons c₃ rest =>
          have hdigits : mem.drop (digitsAt r 58) = c₂ :: c₃ :: rest := by
            show mem.drop (r + 1) = _
            rw [← List.drop_drop, htext]
            rfl
          rw [hpair h₁ h₂ htext hdigits, hexStream_colon h₂]
      · have hdigits : mem.drop (digitsAt r c₁) = c₁ :: c₂ :: rest := by
          rw [digitsAt, if_neg hcolon, htext]
        rw [hpair h₁ h₂ htext hdigits, hexStream_pair h₁ h₂ hcolon]

/-- The quote that is looked at is the last of the `n` characters before the NUL. -/
theorem value_closeQuote {mem : List UInt8} {q n : Nat} (hn : q + strlen (mem.drop q) = n)
    (hlen : n ≤ mem.length) :
    (closeQuote mem q).value = if n = 0 then none else some (cutQuote n mem) := by
  have hlast : (q : Int) + strlen (mem.drop q) - 1 = (n : Int) - 1 := by omega
  unfold closeQuote
  rw [hlast, Logged.value_bind]
  split
  · next h0 => simp [readText, h0]
  · next h0 =>
    have hcast : (n : Int) - 1 = (n - 1 : Nat) := by omega
    have hlt : n - 1 < mem.length := by omega
    rw [hcast, value_readText, List.getElem?_eq_getElem hlt, Option.bind_some, cutQuote,
      List.getElem?_eq_getElem hlt]
    by_cases h39 : mem[n - 1] = 39
    · simp only [h39, if_true, value_writeText hlt]
    · simp [h39]

/-- The decoder yields what it was taken to yield by the parser. -/
theorem value_convertInPlace (mem : List UInt8) :
    (convertInPlace mem).value = convertStringToHexStream mem := by
  cases hmem : mem with
  | nil => rfl
  | cons c tail =>
    have hfirst : readText mem 0 = .access (.read 0) (some c) := by rw [hmem]; rfl
    have hstart : (if c = 39 then 1 else 0) = textStart mem := by simp [textStart, hmem]
    obtain ⟨n, hn⟩ : ∃ n, textStart mem + strlen (mem.drop (textStart mem)) = n := ⟨_, rfl⟩
    have hlen : n ≤ mem.length := by
      have htake : strlen (mem.drop (textStart mem)) ≤ (mem.drop (textStart mem)).length :=
        (List.takeWhile_sublist _).length_le
      have hle : textStart mem ≤ 1 := by
        rw [← hstart]
        split <;> omega
      have hpos : 0 < mem.length := by simp [hmem]
      rw [List.length_drop] at htake
      omega
    rw [← hmem]
    unfold convertInPlace convertStringToHexStream
    simp only [hfirst, Logged.access_bind, hstart, moveTo, Logged.value_bind, hn,
      value_closeQuote hn hlen]
    split
    · rfl
    · rw [Option.bind_some, value_decodeLoop (Nat.zero_le _) (by decide)]
      cases hbytes : hexStream ((cutQuote n mem).drop (textStart mem)) with
      | none => rfl
      | some bytes =>
        have hroom := length_hexStream hbytes
        rw [List.length_drop] at hroom
        have hwrite : (writeText (bytes ++ (cutQuote n mem).drop bytes.length) bytes.length 0).value =
            some (bytes ++ 0 :: (cutQuote n mem).drop (bytes.length + 1)) := by
          have hlt : bytes.length < (bytes ++ (cutQuote n mem).drop bytes.length).length := by
            rw [List.length_append, List.length_drop]
            omega
          rw [value_writeText hlt, List.set_append_right _ _ (Nat.le_refl _), Nat.sub_self,
            List.drop_eq_getElem_cons (by omega)]
          rfl
        simp [decoded, hwrite]

/-! ## Bytes as a text -/

/-- A digit in upper or in lower case. -/
def hexDigit (upper : Bool) (d : Nat) : UInt8 :=
  .ofNat (if d < 10 then 48 + d else if upper then 55 + d else 87 + d)

/-- A byte with the case of each of its digits. -/
structure Digits where
  byte : UInt8
  upperHi : Bool
  upperLo : Bool
  deriving DecidableEq, Repr

def Digits.text (b : Digits) : List UInt8 :=
  [hexDigit b.upperHi (b.byte.toNat / 16), hexDigit b.upperLo (b.byte.toNat % 16)]

/-- Bytes that are written with or without a colon between any two, and with or without quotes. -/
structure Spelling where
  digits : List Digits
  colons : Bool
  quoted : Bool
  deriving DecidableEq, Repr

def Spelling.bytes (s : Spelling) : List UInt8 := s.digits.map Digits.byte

def Spelling.inner (s : Spelling) : List UInt8 :=
  if s.colons then [58].intercalate (s.digits.map Digits.text) else s.digits.flatMap Digits.text

def Spelling.text (s : Spelling) : List UInt8 :=
  if s.quoted then 39 :: (s.inner ++ [39]) else s.inner

/-- The decoder leaves the bytes at the start of the buffer, and their number. -/
def Decodes (s : Spelling) (slack : List UInt8) : Prop :=
  ∃ mem, (convertInPlace (s.text ++ 0 :: slack)).value = some (mem, s.bytes.length) ∧
    mem.take s.bytes.length = s.bytes

theorem stringToHex_hexDigit (upper : Bool) {d : Nat} (h : d < 16) :
    stringToHex (hexDigit upper d) = d := by
  have hall : ∀ upper : Bool, ∀ d : Fin 16, stringToHex (hexDigit upper d.val) = d.val := by
    decide
  exact hall upper ⟨d, h⟩

theorem hexByte_digits (b : Digits) :
    hexByte (hexDigit b.upperHi (b.byte.toNat / 16)) (hexDigit b.upperLo (b.byte.toNat % 16)) =
      b.byte := by
  have hlt := b.byte.toNat_lt
  have hall : ∀ hi lo : Fin 16, ((BitVec.ofInt 32 hi.val <<< 4) ||| BitVec.ofInt 32 lo.val).toNat =
      16 * hi.val + lo.val := by decide +kernel
  have hjoin := hall ⟨b.byte.toNat / 16, by omega⟩ ⟨b.byte.toNat % 16, by omega⟩
  have hsum : 16 * (b.byte.toNat / 16) + b.byte.toNat % 16 = b.byte.toNat := by omega
  simp only at hjoin
  rw [hexByte, stringToHex_hexDigit _ (by omega), stringToHex_hexDigit _ (by omega), hjoin, hsum,
    UInt8.ofNat_toNat]

/-- Digits are none of the characters that the decoder looks for. -/
theorem hexDigit_ne (upper : Bool) {d : Nat} (h : d < 16) :
    hexDigit upper d ≠ 0 ∧ hexDigit upper d ≠ 39 ∧ hexDigit upper d ≠ 58 := by
  have hall : ∀ upper : Bool, ∀ d : Fin 16, hexDigit upper d.val ≠ 0 ∧
      hexDigit upper d.val ≠ 39 ∧ hexDigit upper d.val ≠ 58 := by decide
  exact hall upper ⟨d, h⟩

theorem Digits.ne (b : Digits) : ∀ c ∈ b.text, c ≠ 0 ∧ c ≠ 39 ∧ c ≠ 58 := by
  have hlt := b.byte.toNat_lt
  intro c hc
  obtain rfl | rfl : c = hexDigit b.upperHi (b.byte.toNat / 16) ∨
      c = hexDigit b.upperLo (b.byte.toNat % 16) := by simpa [Digits.text] using hc
  · exact hexDigit_ne _ (by omega)
  · exact hexDigit_ne _ (by omega)

theorem hexStream_digits (b : Digits) (rest : List UInt8) :
    hexStream (b.text ++ rest) = (hexStream rest).map (b.byte :: ·) := by
  obtain ⟨hhi, -, hcolon⟩ := b.ne _ (List.mem_cons_self ..)
  obtain ⟨hlo, -⟩ := b.ne (hexDigit b.upperLo (b.byte.toNat % 16)) (by simp [Digits.text])
  have h := hexStream_pair hhi hlo hcolon rest
  rwa [hexByte_digits b] at h

theorem hexStream_colon_digits (b : Digits) (rest : List UInt8) :
    hexStream (58 :: (b.text ++ rest)) = (hexStream rest).map (b.byte :: ·) := by
  obtain ⟨hhi, -⟩ := b.ne _ (List.mem_cons_self ..)
  have h := hexStream_colon hhi (hexDigit b.upperLo (b.byte.toNat % 16)) rest
  rwa [hexByte_digits b] at h

/-- What stands before every byte but the first. -/
def Spelling.separator (s : Spelling) : List UInt8 := if s.colons then [58] else []

theorem intercalate_digits (b : Digits) (digits : List Digits) :
    [58].intercalate ((b :: digits).map Digits.text) =
      b.text ++ digits.flatMap fun b => 58 :: b.text := by
  induction digits generalizing b with
  | nil => simp
  | cons b' digits ih =>
    rw [List.map_cons, List.map_cons, List.intercalate_cons_cons, ← List.map_cons, ih b',
      List.flatMap_cons, List.append_assoc]
    rfl

theorem Spelling.inner_nil {s : Spelling} (h : s.digits = []) : s.inner = [] := by
  simp [inner, h]

theorem Spelling.inner_cons {s : Spelling} {b : Digits} {digits : List Digits}
    (h : s.digits = b :: digits) :
    s.inner = b.text ++ digits.flatMap fun b => s.separator ++ b.text := by
  unfold inner separator
  rw [h]
  split
  · exact intercalate_digits b digits
  · rfl

theorem hexStream_separated (s : Spelling) (digits : List Digits) (slack : List UInt8) :
    hexStream ((digits.flatMap fun b => s.separator ++ b.text) ++ 0 :: slack) =
      some (digits.map Digits.byte) := by
  induction digits with
  | nil =>
    cases slack with
    | nil => simp [hexStream]
    | cons c slack => exact hexStream_end (.inl rfl) slack
  | cons b digits ih =>
    have hstep (rest : List UInt8) : hexStream ((s.separator ++ b.text) ++ rest) =
        (hexStream rest).map (b.byte :: ·) := by
      unfold Spelling.separator
      split
      · exact hexStream_colon_digits b rest
      · exact hexStream_digits b rest
    rw [List.flatMap_cons, List.append_assoc, hstep, ih]
    rfl

theorem Spelling.hexStream_inner (s : Spelling) (slack : List UInt8) :
    hexStream (s.inner ++ 0 :: slack) = some s.bytes := by
  unfold bytes
  cases h : s.digits with
  | nil =>
    rw [inner_nil h]
    exact hexStream_separated s [] slack
  | cons b digits =>
    rw [inner_cons h, List.append_assoc, hexStream_digits, hexStream_separated]
    rfl

/-- Neither a NUL nor a quote is in the text of the bytes. -/
theorem Spelling.inner_ne (s : Spelling) : ∀ c ∈ s.inner, c ≠ 0 ∧ c ≠ 39 := by
  intro c hc
  cases h : s.digits with
  | nil => simp [inner_nil h] at hc
  | cons b digits =>
    rw [inner_cons h, List.mem_append, List.mem_flatMap] at hc
    obtain hc | ⟨b', -, hc⟩ := hc
    · obtain ⟨h0, h39, -⟩ := b.ne c hc
      exact ⟨h0, h39⟩
    · obtain hc | hc := List.mem_append.mp hc
      · unfold separator at hc
        split at hc
        · obtain rfl := List.mem_singleton.mp hc
          decide
        · simp at hc
      · obtain ⟨h0, h39, -⟩ := b'.ne c hc
        exact ⟨h0, h39⟩

theorem strlen_append {text slack : List UInt8} (h : ∀ c ∈ text, c ≠ 0) :
    strlen (text ++ 0 :: slack) = text.length := by
  have hall : ∀ c ∈ text, decide (c ≠ 0) = true := fun c hc => decide_eq_true (h c hc)
  rw [strlen, List.takeWhile_append_of_pos hall]
  simp

theorem Spelling.inner_ne_nil {s : Spelling} (h : s.digits ≠ []) : s.inner ≠ [] := by
  obtain ⟨b, digits, hdigits⟩ := List.exists_cons_of_ne_nil h
  rw [inner_cons hdigits]
  simp [Digits.text]

/-- A text without quotes is looked at as it is. -/
theorem convert_plain {text slack bytes : List UInt8} (hne : text ≠ [])
    (htext : ∀ c ∈ text, c ≠ 0 ∧ c ≠ 39) (hbytes : hexStream (text ++ 0 :: slack) = some bytes) :
    ∃ more, convertStringToHexStream (text ++ 0 :: slack) =
      some (bytes ++ more, bytes.length % 65536) := by
  have hpos : 0 < text.length := List.length_pos_iff.mpr hne
  have hstart : textStart (text ++ 0 :: slack) = 0 := by
    obtain ⟨c, rest, rfl⟩ := List.exists_cons_of_ne_nil hne
    have h39 := (htext c (List.mem_cons_self ..)).2
    simp [textStart, h39]
  have hlast : cutQuote text.length (text ++ 0 :: slack) = text ++ 0 :: slack := by
    unfold cutQuote
    split
    · next h39 =>
      rw [List.getElem?_append_left (by omega)] at h39
      exact absurd rfl (htext 39 (List.mem_of_getElem? h39)).2
    · rfl
  unfold convertStringToHexStream
  simp only [hstart, List.drop_zero, strlen_append fun c hc => (htext c hc).1, Nat.zero_add]
  rw [if_neg (by omega), hlast, hbytes]
  exact ⟨_, rfl⟩

/-- A text between quotes is looked at without them. -/
theorem convert_quoted {text slack bytes : List UInt8} (htext : ∀ c ∈ text, c ≠ 0 ∧ c ≠ 39)
    (hbytes : hexStream (text ++ 0 :: 0 :: slack) = some bytes) :
    ∃ more, convertStringToHexStream (39 :: (text ++ [39]) ++ 0 :: slack) =
      some (bytes ++ more, bytes.length % 65536) := by
  have hstart : textStart (39 :: (text ++ [39]) ++ 0 :: slack) = 1 := rfl
  have hlen : strlen ((text ++ [39]) ++ 0 :: slack) = text.length + 1 := by
    rw [strlen_append, List.length_append]
    · rfl
    · intro c hc
      obtain hc | hc := List.mem_append.mp hc
      · exact (htext c hc).1
      · obtain rfl := List.mem_singleton.mp hc
        decide
  have hcut : cutQuote (1 + (text.length + 1)) (39 :: (text ++ [39]) ++ 0 :: slack) =
      39 :: (text ++ 0 :: 0 :: slack) := by
    have hindex : 1 + (text.length + 1) - 1 = text.length + 1 := by omega
    unfold cutQuote
    rw [hindex]
    simp
  unfold convertStringToHexStream
  simp only [hstart]
  rw [List.cons_append] at hcut ⊢
  rw [List.drop_succ_cons, List.drop_zero, hlen, if_neg (by omega), hcut]
  simp only [List.drop_succ_cons, List.drop_zero, hbytes]
  exact ⟨_, rfl⟩

/-- What the decoder makes of a text that is not empty. -/
theorem Spelling.convert (s : Spelling) (slack : List UInt8) (h : s.digits ≠ [] ∨ s.quoted) :
    ∃ more, convertStringToHexStream (s.text ++ 0 :: slack) =
      some (s.bytes ++ more, s.bytes.length % 65536) := by
  unfold text
  by_cases hq : s.quoted
  · rw [if_pos hq]
    exact convert_quoted s.inner_ne (s.hexStream_inner (0 :: slack))
  · rw [if_neg hq]
    have hne := inner_ne_nil (h.resolve_right hq)
    exact convert_plain hne s.inner_ne (s.hexStream_inner slack)

/-- What is decoded has a text, and a number of bytes that 16 bits can hold. -/
theorem Decodes.bounds {s : Spelling} {slack : List UInt8} (h : Decodes s slack) :
    (s.digits ≠ [] ∨ s.quoted) ∧ s.digits.length < 65536 := by
  have hlen : s.bytes.length = s.digits.length := List.length_map _
  obtain ⟨mem, hmem, -⟩ := h
  rw [value_convertInPlace] at hmem
  by_cases hs : s.digits ≠ [] ∨ s.quoted
  · obtain ⟨more, hconvert⟩ := s.convert slack hs
    rw [hconvert, Option.some.injEq, Prod.mk.injEq] at hmem
    have := Nat.mod_lt s.bytes.length (show 0 < 65536 by decide)
    exact ⟨hs, by omega⟩
  · rw [not_or, not_not] at hs
    have htext : s.text = [] := by simp [Spelling.text, hs.2, Spelling.inner_nil hs.1]
    rw [htext] at hmem
    simp [convertStringToHexStream, textStart, strlen] at hmem

/-- The bytes are decoded exactly when there is a text and 16 bits can hold their number. -/
theorem decodes_iff (s : Spelling) (slack : List UInt8) :
    Decodes s slack ↔ (s.digits ≠ [] ∨ s.quoted) ∧ s.digits.length < 65536 := by
  have hlen : s.bytes.length = s.digits.length := List.length_map _
  constructor
  · exact Decodes.bounds
  · rintro ⟨hs, hlt⟩
    obtain ⟨more, hconvert⟩ := s.convert slack hs
    rw [Nat.mod_eq_of_lt (by omega)] at hconvert
    exact ⟨_, (value_convertInPlace _).trans hconvert, List.take_left⟩

/-- The text of no bytes is read before its first character, and the number of 65536 bytes is
taken for 0. -/
theorem not_decoded : ¬ Decodes ⟨[], false, false⟩ [] ∧
    ¬ Decodes ⟨List.replicate 65536 ⟨0, false, false⟩, false, false⟩ [] := by
  constructor
  · intro h
    exact absurd h.bounds.1 (by decide)
  · intro h
    have hlt := h.bounds.2
    rw [List.length_replicate] at hlt
    omega

/-! ## Inside of the buffer -/

/-- Pairs of characters, each with or without a colon before it, and at most one more behind
them. -/
def paired : List UInt8 → Bool
  | c :: _ :: rest =>
    if c = 58 then
      match rest with
      | _ :: rest => paired rest
      | [] => false
    else paired rest
  | _ => true

/-- A turn stays inside when it does not step over the NUL, and the turns behind it do. -/
theorem clean_pair {mem more rest : List UInt8} {r w len n : Nat} {c next hi lo : UInt8}
    (hc : c ≠ 0) (hnext : next ≠ 0) (h : mem.drop r = c :: next :: more)
    (hdigits : mem.drop (digitsAt r c) = hi :: lo :: rest) (hw : w ≤ r) :
    (decodeLoop mem r w len).Clean (TextAccess.Inside n) ↔ digitsAt r c + 2 ≤ n ∧
      (decodeLoop (mem.set w (hexByte hi lo)) (digitsAt r c + 2) (w + 1)
        ((len + 1) % 65536)).Clean (TextAccess.Inside n) := by
  have hr : r ≤ digitsAt r c := by
    unfold digitsAt
    split <;> omega
  rw [decodeLoop_pair hc hnext h hdigits hw]
  simp only [List.cons_append, List.nil_append, Logged.clean_cons, TextAccess.Inside]
  constructor
  · rintro ⟨-, -, -, -, -, -, hlast, hlater⟩
    exact ⟨hlast.1, hlater⟩
  · rintro ⟨hlast, hlater⟩
    exact ⟨by omega, by omega, by omega, by omega, by omega, by omega, by omega, hlater⟩

/-- What is left of the memory behind the digits of a turn. -/
theorem drop_behind {mem more : List UInt8} {r w : Nat} {hi lo b : UInt8}
    (h : mem.drop r = hi :: lo :: more) (hw : w < r + 2) :
    (mem.set w b).drop (r + 2) = more := by
  rw [List.drop_set_of_lt hw, ← List.drop_drop, h]
  rfl

/-- A run over `mem` stays inside of a text with its NUL at `n` exactly when `P` holds, and it
leaves the pointer that it writes with inside then. -/
structure InsideIff (n : Nat) (mem : List UInt8)
    (run : Logged TextAccess (List UInt8 × Nat × Nat)) (P : Prop) : Prop where
  iff : run.Clean (TextAccess.Inside n) ↔ P
  ends : P → ∀ mem' w' len', run.value = some (mem', w', len') →
    w' ≤ n ∧ mem'.length = mem.length

theorem InsideIff.congr {n : Nat} {mem : List UInt8}
    {run : Logged TextAccess (List UInt8 × Nat × Nat)} {P Q : Prop} (h : InsideIff n mem run P)
    (hq : P ↔ Q) : InsideIff n mem run Q :=
  ⟨h.iff.trans hq, fun q => h.ends (hq.mpr q)⟩

/-- What holds of the turns behind a turn holds with it, if the turn does not step over the NUL. -/
theorem InsideIff.turn {mem more rest : List UInt8} {r w len n : Nat} {c next hi lo : UInt8}
    {P : Prop} (hc : c ≠ 0) (hnext : next ≠ 0) (h : mem.drop r = c :: next :: more)
    (hdigits : mem.drop (digitsAt r c) = hi :: lo :: rest) (hw : w ≤ r)
    (hlater : InsideIff n (mem.set w (hexByte hi lo)) (decodeLoop (mem.set w (hexByte hi lo))
      (digitsAt r c + 2) (w + 1) ((len + 1) % 65536)) P) :
    InsideIff n mem (decodeLoop mem r w len) (digitsAt r c + 2 ≤ n ∧ P) := by
  refine ⟨(clean_pair hc hnext h hdigits hw).trans (and_congr_right' hlater.iff), ?_⟩
  rintro ⟨-, hp⟩ mem' w' len' hres
  rw [decodeLoop_pair hc hnext h hdigits hw] at hres
  have hends := hlater.ends hp mem' w' len' hres
  rwa [List.length_set] at hends

/-- The loop ends where no pair of characters is left. -/
theorem InsideIff.stop {mem slack text : List UInt8} {r w len n : Nat}
    (h : mem.drop r = text ++ 0 :: slack) (h0 : 0 ∉ text) (h1 : text.length ≤ 1) (hw : w ≤ r)
    (hn : r + text.length ≤ n) : InsideIff n mem (decodeLoop mem r w len) True := by
  match text with
  | [] =>
    rw [decodeLoop_nil h]
    refine ⟨?_, fun _ mem' w' len' hres => ?_⟩
    · simp only [List.length_nil] at hn
      simp only [Logged.clean_cons, TextAccess.Inside, iff_true]
      exact ⟨by omega, rfl, by simp⟩
    · obtain ⟨rfl, rfl, -⟩ := by simpa using hres
      simp only [List.length_nil] at hn
      exact ⟨by omega, rfl⟩
  | [c] =>
    have hc : c ≠ 0 := by
      rintro rfl
      simp at h0
    rw [decodeLoop_last hc h]
    simp only [List.length_singleton] at hn
    refine ⟨?_, fun _ mem' w' len' hres => ?_⟩
    · simp only [Logged.clean_cons, TextAccess.Inside, iff_true]
      exact ⟨by omega, by omega, rfl, by simp⟩
    · obtain ⟨rfl, rfl, -⟩ := by simpa using hres
      exact ⟨by omega, rfl⟩
  | _ :: _ :: _ => simp at h1

/-- The loop stays inside of a text whose NUL is at `n`, or in front of one more NUL at `n`,
exactly when its characters are paired or there is that NUL. -/
theorem insideIff_decodeLoop {mem text slack : List UInt8} {r w len n : Nat}
    (h : mem.drop r = text ++ 0 :: slack) (h0 : 0 ∉ text) (hw : w ≤ r)
    (hn : r + text.length = n ∨ r + text.length + 1 = n ∧ slack.head? = some 0) :
    InsideIff n mem (decodeLoop mem r w len) (paired text ∨ r + text.length < n) := by
  induction ht : text.length using Nat.strongRecOn generalizing mem text r w len with
  | ind m ih =>
    subst ht
    match htext : text with
    | [] | [_] =>
      have hstop : InsideIff n mem (decodeLoop mem r w len) True :=
        .stop h h0 (by simp) hw (by omega)
      exact hstop.congr (iff_of_true trivial (.inl rfl))
    | c :: next :: rest =>
      have hc : c ≠ 0 := by
        rintro rfl
        simp at h0
      have hnext : next ≠ 0 := by
        rintro rfl
        simp at h0
      simp only [List.length_cons] at hn ih ⊢
      by_cases hcolon : c = 58
      · subst hcolon
        have hat : digitsAt r 58 = r + 1 := rfl
        have hdrop : mem.drop (digitsAt r 58) = next :: (rest ++ 0 :: slack) := by
          rw [hat, ← List.drop_drop, h]
          rfl
        match rest with
        | [] =>
          -- the second digit is the NUL, and the pointer steps over it
          have hbehind := drop_behind (w := w) (b := hexByte next 0) hdrop (by omega)
          have hpaired : paired [58, next] = false := rfl
          rw [hpaired]
          simp only [List.length_nil, Nat.zero_add] at hn ⊢
          by_cases hmore : r + 2 < n
          · obtain ⟨slack', rfl⟩ : ∃ slack', slack = 0 :: slack' :=
              List.head?_eq_some_iff.mp (hn.resolve_left (by omega)).2
            have hlater : InsideIff n (mem.set w (hexByte next 0)) (decodeLoop
                (mem.set w (hexByte next 0)) (digitsAt r 58 + 2) (w + 1) ((len + 1) % 65536)) True :=
              @InsideIff.stop _ _ [] _ _ _ _ hbehind (by simp) (by simp) (by omega) (by simp; omega)
            have hturn := InsideIff.turn hc hnext h hdrop hw hlater
            exact hturn.congr (iff_of_true ⟨by omega, trivial⟩ (.inr hmore))
          · have hno : ¬ (false = true ∨ r + 2 < n) := by simpa using hmore
            refine ⟨iff_of_false (fun hclean => ?_) hno, fun hyes => absurd hyes hno⟩
            have hover := ((clean_pair hc hnext h hdrop hw).mp hclean).1
            omega
        | third :: rest =>
          have hpaired : paired (58 :: next :: third :: rest) = paired rest := rfl
          have hbehind := drop_behind (w := w) (b := hexByte next third) hdrop (by omega)
          simp only [List.length_cons] at hn ih
          have hlater := @ih rest.length (by omega) _ _ _ (w + 1) ((len + 1) % 65536) hbehind
            (fun hmem => h0 (by simp [hmem])) (by omega)
            (hn.imp (fun _ => by omega) fun hn => ⟨by omega, hn.2⟩) rfl
          refine (InsideIff.turn hc hnext h hdrop hw hlater).congr ?_
          rw [hpaired, List.length_cons, and_iff_right (by omega)]
          exact or_congr_right (by omega)
      · have hat : digitsAt r c = r := if_neg hcolon
        have hdigits : mem.drop (digitsAt r c) = c :: next :: (rest ++ 0 :: slack) := by
          rw [hat, h]
          rfl
        have hpaired : paired (c :: next :: rest) = paired rest := by
          rw [paired.eq_def]
          simp [hcolon]
        have hbehind := drop_behind (w := w) (b := hexByte c next) hdigits (by omega)
        have hlater := @ih rest.length (by omega) _ _ _ (w + 1) ((len + 1) % 65536) hbehind
          (fun hmem => h0 (by simp [hmem])) (by omega)
          (hn.imp (fun _ => by omega) fun hn => ⟨by omega, hn.2⟩) rfl
        refine (InsideIff.turn hc hnext h hdigits hw hlater).congr ?_
        rw [hpaired, and_iff_right (by omega)]
        exact or_congr_right (by omega)

theorem clean_readText {mem : List UInt8} {i n : Nat} (hi : i ≤ n) (hn : n < mem.length) :
    (readText mem i).Clean (TextAccess.Inside n) := by
  have hlt : i < mem.length := by omega
  rw [readText, Logged.clean_access]
  exact ⟨by simp [hlt], by simp only [TextAccess.Inside]; omega⟩

theorem clean_writeText {mem : List UInt8} {i n : Nat} (hi : i ≤ n) (hn : n < mem.length)
    (b : UInt8) : (writeText mem i b).Clean (TextAccess.Inside n) := by
  have hlt : i < mem.length := by omega
  rw [writeText, Logged.clean_access]
  exact ⟨by simp [hlt], by simp only [TextAccess.Inside]; omega⟩

/-- The last character is looked at inside of the buffer when there is one. -/
theorem clean_closeQuote {mem : List UInt8} {q n : Nat} (hn : q + strlen (mem.drop q) = n)
    (hlen : n < mem.length) : (closeQuote mem q).Clean (TextAccess.Inside n) ↔ n ≠ 0 := by
  have hvalue := value_closeQuote hn (Nat.le_of_lt hlen)
  have hlast : (q : Int) + strlen (mem.drop q) - 1 = (n : Int) - 1 := by omega
  constructor
  · rintro ⟨hsome, -⟩ h0
    rw [hvalue, if_pos h0] at hsome
    contradiction
  · intro h0
    have hcast : (n : Int) - 1 = (n - 1 : Nat) := by omega
    unfold closeQuote
    rw [hlast, hcast, Logged.clean_bind]
    refine ⟨clean_readText (by omega) hlen, fun c _ => ?_⟩
    split
    · exact clean_writeText (by omega) hlen 0
    · exact Logged.clean_pure _

/-- The decoder stays inside when there is a text and its loop does. -/
theorem clean_convertInPlace {mem : List UInt8} {q n : Nat} {P : Prop} (hq : textStart mem = q)
    (hn : q + strlen (mem.drop q) = n) (hlen : n < mem.length)
    (hloop : n ≠ 0 → InsideIff n (cutQuote n mem) (decodeLoop (cutQuote n mem) q 0 0) P) :
    (convertInPlace mem).Clean (TextAccess.Inside n) ↔ n ≠ 0 ∧ P := by
  have hpos : 0 < mem.length := by omega
  have hc := List.getElem?_eq_getElem hpos
  have hfirst : readText mem 0 = .access (.read 0) (some mem[0]) := congrArg (Logged.access _) hc
  have hstart : (if mem[0] = 39 then 1 else 0) = q := by
    rw [← hq, textStart, List.head?_eq_getElem?, hc]
    simp
  have hle : q ≤ 1 := by
    rw [← hstart]
    split <;> omega
  have hqn : n ≠ 0 → q ≤ n := by omega
  have hclose := clean_closeQuote hn hlen
  have hvalue := value_closeQuote hn (Nat.le_of_lt hlen)
  unfold convertInPlace
  rw [hfirst, Logged.access_bind]
  simp only [hstart, moveTo, Logged.access_bind, Logged.clean_cons, TextAccess.Inside]
  constructor
  · rintro ⟨-, -, hclean⟩
    have h0 : n ≠ 0 := hclose.mp (Logged.clean_bind.mp hclean).1
    rw [if_neg h0] at hvalue
    change ((closeQuote mem q >>= _ : Logged _ _).Clean _) at hclean
    rw [Logged.clean_bind_of (hclose.mpr h0) hvalue] at hclean
    exact ⟨h0, (hloop h0).iff.mp (Logged.clean_bind.mp hclean).1⟩
  · rintro ⟨h0, hp⟩
    rw [if_neg h0] at hvalue
    refine ⟨by omega, ⟨hqn h0, Nat.zero_le _⟩, ?_⟩
    change (closeQuote mem q >>= _ : Logged _ _).Clean _
    rw [Logged.clean_bind_of (hclose.mpr h0) hvalue, Logged.clean_bind]
    refine ⟨(hloop h0).iff.mpr hp, fun res hres => ?_⟩
    obtain ⟨mem', w', len'⟩ := res
    obtain ⟨hw, hlen'⟩ := (hloop h0).ends hp mem' w' len' hres
    rw [length_cutQuote] at hlen'
    have hroom : n < mem'.length := by rwa [hlen']
    rw [Logged.clean_bind]
    exact ⟨clean_writeText hw hroom 0, fun _ _ => Logged.clean_pure _⟩

/-- The text that is left when a quote before it is passed over. -/
def opened (text : List UInt8) : List UInt8 := text.drop (textStart text)

/-- The decoder stays inside of a text and its NUL exactly when there is a text, and it ends with
a quote or the characters behind a quote that starts it are paired. -/
theorem inside_iff {text slack : List UInt8} (h : 0 ∉ text) :
    (convertInPlace (text ++ 0 :: slack)).Clean (TextAccess.Inside text.length) ↔
      text ≠ [] ∧ (text.getLast? = some 39 ∨ paired (opened text)) := by
  have hne : ∀ c ∈ text, c ≠ 0 := fun c hc h0 => h (h0 ▸ hc)
  obtain ⟨q, hq⟩ : ∃ q, textStart text = q := ⟨_, rfl⟩
  have hstart : textStart (text ++ 0 :: slack) = q := by
    rw [← hq]
    cases text <;> rfl
  have hle : q ≤ text.length := by
    rw [← hq]
    cases text with
    | nil => simp [textStart]
    | cons c text =>
      unfold textStart
      split <;> simp
  have hdrop : (text ++ 0 :: slack).drop q = text.drop q ++ 0 :: slack :=
    List.drop_append_of_le_length hle
  have hn : q + strlen ((text ++ 0 :: slack).drop q) = text.length := by
    rw [hdrop, strlen_append fun c hc => hne c (List.mem_of_mem_drop hc), List.length_drop]
    omega
  have hlen : text.length < (text ++ 0 :: slack).length := by simp
  rw [clean_convertInPlace hstart hn hlen (P := text.getLast? = some 39 ∨ paired (opened text))]
  · exact and_congr_left' (not_congr List.length_eq_zero_iff)
  · intro h0
    obtain ⟨front, last, rfl⟩ : ∃ front last, text = front ++ [last] := by
      have hnil : text ≠ [] := by
        rintro rfl
        exact h0 rfl
      exact ⟨text.dropLast, text.getLast hnil, (List.dropLast_append_getLast hnil).symm⟩
    have hcut : cutQuote (front ++ [last]).length (front ++ [last] ++ 0 :: slack) =
        if last = 39 then front ++ 0 :: 0 :: slack else front ++ [last] ++ 0 :: slack := by
      simp [cutQuote]
    rw [hcut, List.getLast?_concat]
    by_cases h39 : last = 39
    · subst h39
      rw [if_pos rfl]
      have hlast : some (39 : UInt8) = some 39 ∨ paired (opened (front ++ [39])) := .inl rfl
      rw [List.length_append, List.length_singleton] at hle ⊢
      by_cases hfront : q ≤ front.length
      · have hleft : (front ++ 0 :: 0 :: slack).drop q = front.drop q ++ 0 :: 0 :: slack :=
          List.drop_append_of_le_length hfront
        have h0 : 0 ∉ front.drop q := fun hmem => h (by simp [List.mem_of_mem_drop hmem])
        have hbehind : q + (front.drop q).length < front.length + 1 := by
          rw [List.length_drop]
          omega
        exact (insideIff_decodeLoop hleft h0 (Nat.zero_le q)
          (.inr ⟨by rw [List.length_drop]; omega, rfl⟩)).congr (iff_of_true (.inr hbehind) hlast)
      · -- a quote alone starts the text and ends it
        obtain rfl : q = front.length + 1 := by omega
        have hleft : (front ++ 0 :: 0 :: slack).drop (front.length + 1) = [] ++ 0 :: slack := by
          rw [List.drop_append]
          simp
        exact (insideIff_decodeLoop hleft (by simp) (Nat.zero_le _) (.inl rfl)).congr
          (iff_of_true (.inl rfl) hlast)
    · rw [if_neg h39]
      have hloop := @insideIff_decodeLoop _ _ _ _ 0 0 (front ++ [last]).length hdrop
        (fun hmem => h (List.mem_of_mem_drop hmem)) (Nat.zero_le q)
        (.inl (by rw [List.length_drop]; omega))
      have hopened : opened (front ++ [last]) = (front ++ [last]).drop q := by rw [← hq]; rfl
      refine hloop.congr ?_
      rw [List.length_drop, hopened, or_iff_left (by omega),
        or_iff_right (fun heq => h39 (Option.some.inj heq))]

theorem inside_quoted :
    (convertInPlace ([39, 97, 97, 39] ++ 0 :: [])).Clean (TextAccess.Inside 4) ↔
      [39, 97, 97, 39] ≠ ([] : List UInt8) ∧
        (([39, 97, 97, 39] : List UInt8).getLast? = some 39 ∨ paired (opened [39, 97, 97, 39])) :=
  @inside_iff [39, 97, 97, 39] [] (by decide)

/-- The text `aa:b` in a buffer of 256 bytes is read behind its NUL. -/
theorem lateColon_outside : 0 ∉ ([97, 97, 58, 98] : List UInt8) ∧
    ¬ (convertInPlace ([97, 97, 58, 98] ++ 0 :: List.replicate 251 0)).Clean
      (TextAccess.Inside 4) := by
  decide +kernel

end Mapt

end WanManager
