import WanManager.Text.CString

/-! # The arguments of a process

`parseArgs` makes the argument vector of a process that is to be spawned. A first pass over the
arguments counts how many slots are needed, and a second one fills them. The strings have lengths
that an `int` holds. -/

namespace WanManager

namespace ProcessArgs

open Text

/-! ## The function -/

/-- A slot of the vector: a string or the null pointer. -/
abbrev Slot := Option (List Char)

/-- What allocates memory: whether `malloc` succeeds and what it leaves in the slots, and whether
the `calloc` for each slot succeeds. -/
structure Heap where
  malloc : Bool
  garbage : Nat → Slot
  calloc : Nat → Bool

/-- Nothing is refused. -/
def Heap.Succeeds (heap : Heap) : Prop := heap.malloc = true ∧ ∀ i, heap.calloc i = true

/-- `strrchr`: the text from the last occurrence on. -/
def strrchr (c : Char) : List Char → Option (List Char)
  | [] => none
  | a :: s =>
    match strrchr c s with
    | some t => some t
    | none => if a = c then some (a :: s) else none

/-- `cmdStr` -/
def cmdStr (cmd : List Char) : List Char :=
  match strrchr '/' cmd with
  | none => cmd
  | some t => t.tail

/-- What the first pass adds to `numArgs`, which is 3 at first. -/
def countSpaces : List Char → Bool → Nat
  | [], _ => 0
  | c :: args, inSpace =>
    if c = ' ' ∧ inSpace = false then countSpaces args true + 1 else countSpaces args false

/-- A write to a slot, which has to be allocated. -/
def store (array : List Slot) (i : Nat) (slot : Slot) : Option (List Slot) :=
  if i < array.length then some (array.set i slot) else none

/-- The second pass from a place in the arguments on, with `argIndex` and the slots when it comes to
the end, or a refused allocation. -/
def fillArgs (heap : Heap) :
    List Char → Bool → Nat → List Slot → Option (Option (Nat × List Slot))
  | [], _, argIndex, array => some (some (argIndex, array))
  | c :: args, inSpace, argIndex, array =>
    if c = ' ' ∧ inSpace = false then fillArgs heap args true argIndex array
    else if c ≠ ' ' ∧ inSpace = true then
      if heap.calloc argIndex then do
        let array ← store array argIndex (some ((c :: args).takeWhile (· ≠ ' ')))
        fillArgs heap args false (argIndex + 1) array
      else do
        let _ ← store array argIndex none
        some none
    else fillArgs heap args inSpace argIndex array

/-- `parseArgs`: the vector, or a refused allocation; `none` writes a slot that is not there. -/
def parseArgs (heap : Heap) (cmd : List Char) (args : Option (List Char)) :
    Option (Option (List Slot)) :=
  let args := args.getD []
  let numArgs := 3 + countSpaces args true
  if heap.malloc then do
    let array := (List.range numArgs).map heap.garbage
    if heap.calloc 0 then do
      let array ← store array 0 (some (cmdStr cmd))
      match ← fillArgs heap args true 1 array with
      | none => some none
      | some (argIndex, array) => do
        let array ← store array argIndex none
        some (some array)
    else do
      let _ ← store array 0 none
      some none
  else some none

/-! ## What it is for -/

/-- What is behind the last slash of a path. -/
def lastComponent (cmd : List Char) : List Char := (cmd.splitOn '/').getLastD []

/-- The vector: the name, the words of the arguments, and the null pointer. -/
def argv (cmd : List Char) (args : Option (List Char)) : List Slot :=
  some (lastComponent cmd) :: (words ' ' (args.getD [])).map some ++ [none]

/-! ## The name -/

theorem notMem_of_strrchr {c : Char} {s : List Char} (h : strrchr c s = none) : c ∉ s := by
  induction s with
  | nil => simp
  | cons a s ih =>
    rw [strrchr] at h
    split at h
    · cases h
    · rename_i hnone
      split at h
      · cases h
      · rename_i hne
        rw [List.mem_cons, not_or]
        exact ⟨Ne.symm hne, ih hnone⟩

theorem of_strrchr {c : Char} {s t : List Char} (h : strrchr c s = some t) :
    ∃ before after, s = before ++ c :: after ∧ t = c :: after ∧ c ∉ after := by
  induction s generalizing t with
  | nil => cases h
  | cons a s ih =>
    rw [strrchr] at h
    split at h
    · rename_i t' ht'
      obtain rfl := Option.some.inj h
      obtain ⟨before, after, rfl, ht, hno⟩ := ih ht'
      exact ⟨a :: before, after, rfl, ht, hno⟩
    · rename_i hnone
      split at h
      · rename_i hac
        subst hac
        exact ⟨[], s, rfl, (Option.some.inj h).symm, notMem_of_strrchr hnone⟩
      · cases h

theorem cmdStr_eq (cmd : List Char) : cmdStr cmd = lastComponent cmd := by
  rw [cmdStr, lastComponent]
  split
  · rename_i hnone
    rw [List.splitOn_eq_singleton (notMem_of_strrchr hnone), List.getLastD_cons, List.getLastD_nil]
  · rename_i t ht
    obtain ⟨before, after, rfl, rfl, hno⟩ := of_strrchr ht
    rw [List.splitOn_append_cons_self, List.splitOn_eq_singleton hno, List.getLastD_concat,
      List.tail_cons]

/-! ## The count -/

/-- There is a slot for each word that is still to come; at the start one fewer is counted. -/
theorem length_words_le (args : List Char) :
    (∀ inSpace, (words ' ' args).length ≤ countSpaces args inSpace + 1) ∧
      (words ' ' (args.dropWhile (· ≠ ' '))).length ≤ countSpaces args false := by
  induction args with
  | nil => simp [words, countSpaces]
  | cons c args ih =>
    obtain ⟨hany, hword⟩ := ih
    by_cases hc : c = ' '
    · subst hc
      have hcount := hany true
      have hcount' := hany false
      have hspace : (' ' :: args).dropWhile (· ≠ ' ') = ' ' :: args := by simp
      rw [hspace, words_delimiter]
      constructor
      · intro inSpace
        cases inSpace <;> simp only [countSpaces] <;> simp <;> omega
      · simp only [countSpaces]
        simpa using hcount
    · have hdrop : (c :: args).dropWhile (· ≠ ' ') = args.dropWhile (· ≠ ' ') := by
        simp [hc]
      have hcount : ∀ inSpace, countSpaces (c :: args) inSpace = countSpaces args false := by
        intro inSpace
        rw [countSpaces, if_neg fun h => hc h.1]
      rw [hdrop]
      constructor
      · intro inSpace
        rw [words_cons hc, hdrop, List.length_cons, hcount]
        omega
      · rw [hcount]
        exact hword

/-! ## The vector -/

variable {heap : Heap}

/-- The words that are still to come, from the start of a word or in one. -/
def wordsLeft (args : List Char) (inSpace : Bool) : List (List Char) :=
  words ' ' (if inSpace then args else args.dropWhile (· ≠ ' '))

@[simp] theorem wordsLeft_nil (inSpace : Bool) : wordsLeft [] inSpace = [] := by
  cases inSpace <;> rfl

theorem wordsLeft_space (args : List Char) (inSpace : Bool) :
    wordsLeft (' ' :: args) inSpace = wordsLeft args true := by
  cases inSpace <;> simp [wordsLeft, words_delimiter]

theorem wordsLeft_inside {c : Char} (hc : c ≠ ' ') (args : List Char) :
    wordsLeft (c :: args) false = wordsLeft args false := by
  simp [wordsLeft, hc]

theorem wordsLeft_start {c : Char} (hc : c ≠ ' ') (args : List Char) :
    wordsLeft (c :: args) true = (c :: args).takeWhile (· ≠ ' ') :: wordsLeft args false := by
  rw [wordsLeft, if_pos rfl, words_cons hc]
  simp [wordsLeft, hc]

theorem store_take (array : List Slot) {i : Nat} (h : i < array.length) (slot : Slot) :
    ∃ array', store array i slot = some array' ∧ array'.length = array.length ∧
      array'.take (i + 1) = array.take i ++ [slot] := by
  refine ⟨array.set i slot, if_pos h, List.length_set, ?_⟩
  rw [List.take_add_one, List.getElem?_set_self h, Option.toList_some, List.take_set_of_le le_rfl]

theorem fillArgs_spec (hcalloc : ∀ i, heap.calloc i = true) {args : List Char} {inSpace : Bool}
    {argIndex : Nat} {array : List Slot}
    (hroom : argIndex + (wordsLeft args inSpace).length ≤ array.length) :
    ∃ array', fillArgs heap args inSpace argIndex array =
        some (some (argIndex + (wordsLeft args inSpace).length, array')) ∧
      array'.length = array.length ∧
      array'.take (argIndex + (wordsLeft args inSpace).length) =
        array.take argIndex ++ (wordsLeft args inSpace).map some := by
  induction args generalizing inSpace argIndex array with
  | nil => exact ⟨array, by simp [fillArgs], rfl, by simp⟩
  | cons c args ih =>
    by_cases hc : c = ' '
    · subst hc
      -- a space ends a word, or is skipped
      have hfill : fillArgs heap (' ' :: args) inSpace argIndex array =
          fillArgs heap args true argIndex array := by
        cases inSpace <;> simp [fillArgs]
      rw [wordsLeft_space] at hroom ⊢
      rw [hfill]
      exact ih hroom
    · cases inSpace with
      | false =>
        have hfill : fillArgs heap (c :: args) false argIndex array =
            fillArgs heap args false argIndex array := by
          simp [fillArgs, hc]
        rw [wordsLeft_inside hc] at hroom ⊢
        rw [hfill]
        exact ih hroom
      | true =>
        rw [wordsLeft_start hc, List.length_cons] at hroom
        obtain ⟨array₁, hstore, hlength, htake⟩ :=
          store_take array (show argIndex < array.length by omega)
            (some ((c :: args).takeWhile (· ≠ ' ')))
        have hroom₁ : argIndex + 1 + (wordsLeft args false).length ≤ array₁.length := by omega
        obtain ⟨array', hfill, hlength', htake'⟩ := ih hroom₁
        refine ⟨array', ?_, hlength'.trans hlength, ?_⟩
        · rw [fillArgs, if_neg fun h => hc h.1, if_pos ⟨hc, rfl⟩, if_pos (hcalloc _), hstore,
            Option.bind_eq_bind, Option.bind_some, hfill, wordsLeft_start hc, List.length_cons]
          simp only [Option.some.injEq, Prod.mk.injEq, and_true]
          omega
        · rw [wordsLeft_start hc, List.length_cons, List.map_cons]
          rw [show argIndex + ((wordsLeft args false).length + 1) =
            argIndex + 1 + (wordsLeft args false).length by omega, htake', htake]
          simp

/-- The vector is the name, the words and the null pointer, in slots that have been allocated. -/
theorem parseArgs_exact (heap : Heap) (cmd : List Char) (args : Option (List Char))
    (h : heap.Succeeds) :
    ∃ array, parseArgs heap cmd args = some (some array) ∧ argv cmd args <+: array := by
  obtain ⟨hmalloc, hcalloc⟩ := h
  have hcount := (length_words_le (args.getD [])).1 true
  have hleft : wordsLeft (args.getD []) true = words ' ' (args.getD []) := rfl
  let slots := (List.range (3 + countSpaces (args.getD []) true)).map heap.garbage
  have hslots : slots.length = 3 + countSpaces (args.getD []) true := by simp [slots]
  obtain ⟨array₁, hstore₁, hlength₁, htake₁⟩ :=
    store_take slots (show 0 < slots.length by omega) (some (cmdStr cmd))
  have hroom : 1 + (wordsLeft (args.getD []) true).length ≤ array₁.length := by
    rw [hleft]
    omega
  obtain ⟨array₂, hfill, hlength₂, htake₂⟩ := fillArgs_spec hcalloc hroom
  rw [hleft] at hfill htake₂
  obtain ⟨array₃, hstore₃, -, htake₃⟩ :=
    store_take array₂ (show 1 + (words ' ' (args.getD [])).length < array₂.length by omega) none
  refine ⟨array₃, ?_, ?_⟩
  · rw [parseArgs]
    simp only [hmalloc, if_true, hcalloc, Option.bind_eq_bind]
    rw [hstore₁, Option.bind_some, hfill, Option.bind_some]
    simp only [hstore₃, Option.bind_some]
  · have hargv : argv cmd args = array₃.take (1 + (words ' ' (args.getD [])).length + 1) := by
      rw [htake₃, htake₂, htake₁, cmdStr_eq]
      simp [argv]
    rw [hargv]
    exact List.take_prefix _ _

/-! ## Examples -/

namespace Example

def plenty : Heap := ⟨true, fun _ => some "?".toList, fun _ => true⟩

end Example

theorem parseArgs_exact_spaces :
    ∃ array, parseArgs Example.plenty "/usr/sbin/udhcpc".toList (some "  -i   erouter0 ".toList) =
        some (some array) ∧
      [some "udhcpc".toList, some "-i".toList, some "erouter0".toList, none] <+: array :=
  parseArgs_exact Example.plenty "/usr/sbin/udhcpc".toList (some "  -i   erouter0 ".toList)
    ⟨rfl, fun _ => rfl⟩

end ProcessArgs

end WanManager
