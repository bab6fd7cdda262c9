import WanManager.Text.ForwardSearch
import WanManager.Text.Scan
import WanManager.Types

/-! # Looking for a running client

`util_getPidByName` looks through `/proc` for a process with a name and arguments. The arguments are
searched for in the command line, which has a NUL behind each argument, by `find_strstr`. -/

namespace WanManager

namespace ProcessSearch

open Text

/-! ## `find_strstr` -/

/-- The loops of `find_strstr`, of which the first argument says whether the inner one runs; `none`
reads outside the strings. -/
def findLoop (basestr : List UInt8) (basestrLen : Nat) (substr : List UInt8) (substrLen : Nat) :
    Bool → Nat → Nat → Option AnscStatus
  | false, i, j =>
    if i < basestrLen then
      match basestr[i]?, substr[j]? with
      | some b, some c =>
        if b = c then findLoop basestr basestrLen substr substrLen true i j
        else findLoop basestr basestrLen substr substrLen false (i + 1) j
      | _, _ => none
    else some .failure
  | true, i, j =>
    if i < basestrLen then
      if j < substrLen then
        match basestr[i]?, substr[j]? with
        | some b, some c =>
          if b ≠ c then findLoop basestr basestrLen substr substrLen false (i + 1) 0
          else if j + 1 = substrLen then some .success
          else findLoop basestr basestrLen substr substrLen true (i + 1) (j + 1)
        | _, _ => none
      else findLoop basestr basestrLen substr substrLen false (i + 1) j
    else some .failure
termination_by inner i => 2 * (basestrLen - i) + (!inner).toNat

/-- `find_strstr` -/
def findStrstr (basestr : List UInt8) (basestrLen : Nat) (substr : List UInt8) (substrLen : Nat) :
    Option AnscStatus :=
  if basestrLen ≤ substrLen then some .failure
  else findLoop basestr basestrLen substr substrLen false 0 0

/-! ## `util_getPidByName` -/

/-- What `fscanf` stores of `/proc/<pid>/stat` with `%d (%255s %c `. -/
structure Scanned where
  rc : Nat
  processName : List Char := []
  status : Option Char := none
  deriving DecidableEq, Repr

def scanStat (stat : List Char) : Scanned :=
  match scanInt stat with
  | none => ⟨0, [], none⟩
  | some (_, rest) =>
    match scanText ['('] (rest.dropWhile isBlank) with
    | none => ⟨1, [], none⟩
    | some rest =>
      let rest := rest.dropWhile isBlank
      let processName := (rest.takeWhile fun c => !isBlank c).take 255
      if processName = [] then ⟨1, [], none⟩
      else
        match (rest.drop processName.length).dropWhile isBlank with
        | [] => ⟨2, processName, none⟩
        | status :: _ => ⟨3, processName, some status⟩

/-- The name without the bracket behind it. -/
def Scanned.name (s : Scanned) : List Char :=
  if 2 ≤ s.rc ∧ s.processName.getLast? = some ')' then s.processName.dropLast else s.processName

/-- An entry of `/proc` that is a directory with a number as its name. The files may be gone; what
the kernel writes into `stat` has a status. -/
structure Proc where
  pid : Nat
  stat : Option (List Char)
  cmdline : Option (List UInt8)
  pos : 0 < pid
  whole : ∀ text ∈ stat, (scanStat text).status.isSome

/-- `cmdline`, with NUL behind what `fread` reads. -/
def cmdlineBuffer (bytes : List UInt8) : List UInt8 :=
  bytes.take 511 ++ List.replicate (512 - (bytes.take 511).length) 0

/-- `util_getPidByName` from an entry on, with the `status` so far. -/
def getPidFrom (name : List Char) (args : Option (List UInt8)) : List Proc → Char → Option Nat
  | [], _ => some 0
  | p :: procs, status =>
    match p.stat with
    | none => getPidFrom name args procs status
    | some text =>
      let status := (scanStat text).status.getD status
      if (scanStat text).name = name ∧ status ∈ ['R', 'S', 'D'] then
        match args with
        | none => some p.pid
        | some args =>
          match p.cmdline with
          | none => getPidFrom name (some args) procs status
          | some bytes =>
            if bytes = [] then getPidFrom name (some args) procs status
            else
              match findStrstr (cmdlineBuffer bytes) 512 (args ++ [0]) args.length with
              | none => none
              | some .success => some p.pid
              | some .failure => getPidFrom name (some args) procs status
      else getPidFrom name args procs status

/-- `util_getPidByName` -/
def utilGetPidByName (procs : List Proc) (name : List Char) (args : Option (List UInt8)) :
    Option Nat := getPidFrom name args procs '\x00'

/-! ## What they are for -/

/-- The search succeeds exactly when the substring occurs, and stays inside both strings. -/
def FindsSubstring (base sub : List UInt8) : Prop :=
  ∃ status, findStrstr base base.length sub sub.length = some status ∧
    (status = .success ↔ sub <:+: base)

/-- A process with the name that is running. -/
def Running (name : List Char) (p : Proc) : Prop :=
  ∃ text ∈ p.stat, (scanStat text).name = name ∧ ∃ c ∈ (scanStat text).status, c ∈ ['R', 'S', 'D']

def HasArgs (args : List UInt8) (p : Proc) : Prop := ∃ bytes ∈ p.cmdline, args <:+: bytes

/-- A running client with the arguments is found when there is one. -/
def FindsClient (procs : List Proc) (name : List Char) (args : List UInt8) : Prop :=
  ∃ pid, utilGetPidByName procs name (some args) = some pid ∧
    ((∃ p ∈ procs, Running name p ∧ HasArgs args p) →
      ∃ p ∈ procs, Running name p ∧ HasArgs args p ∧ p.pid = pid)

/-- The search comes to the arguments in the command line. -/
def MetArgs (args : List UInt8) (p : Proc) : Prop :=
  ∃ bytes ∈ p.cmdline, bytes ≠ [] ∧ Met args (cmdlineBuffer bytes)

/-! ## The search -/

section

variable {basestr substr : List UInt8} {n m : Nat}

/-- The byte at an index, when there is something left from there on. -/
theorem drop_cons {i : Nat} {b : UInt8} {rest : List UInt8} (hn : basestr.length = n)
    (hrest : basestr.drop i = b :: rest) :
    i + 1 + rest.length = n ∧ basestr[i]? = some b ∧ basestr.drop (i + 1) = rest := by
  have hlength := congrArg List.length hrest
  rw [List.length_drop, List.length_cons] at hlength
  refine ⟨by omega, ?_, ?_⟩
  · rw [← List.head?_drop, hrest, List.head?_cons]
  · rw [← List.tail_drop, hrest, List.tail_cons]

/-- The inner loop compares what is left of both strings. -/
theorem findLoop_true (hn : basestr.length = n) (hm : m ≤ substr.length) {i j : Nat} (hj : j < m)
    {rest : List UInt8} (hrest : basestr.drop i = rest) :
    findLoop basestr n substr m true i j =
      match matchStart ((substr.take m).drop j) rest with
      | .found => some .success
      | .ended => some .failure
      | .failed rest => findLoop basestr n substr m false (n - rest.length) 0 := by
  induction rest generalizing i j with
  | nil =>
    have hi : ¬ i < n := by
      rw [List.drop_eq_nil_iff] at hrest
      omega
    have hpattern : (substr.take m).drop j ≠ [] := by
      rw [ne_eq, List.drop_eq_nil_iff, List.length_take]
      omega
    obtain ⟨a, pattern, hpattern⟩ := List.exists_cons_of_ne_nil hpattern
    rw [findLoop, if_neg hi, hpattern, matchStart]
  | cons b rest ih =>
    obtain ⟨hlength, hb, hnext⟩ := drop_cons hn hrest
    have hi : i < n := by omega
    have hjlt : j < (substr.take m).length := by
      rw [List.length_take]
      omega
    have hc : substr[j]? = some (substr.take m)[j] := by
      rw [List.getElem_take, List.getElem?_eq_getElem]
    rw [findLoop, if_pos hi, if_pos hj, hb, hc, List.drop_eq_getElem_cons hjlt, matchStart]
    dsimp only
    by_cases heq : b = (substr.take m)[j]
    · rw [if_neg (not_not.mpr heq), if_pos heq]
      by_cases hlast : j + 1 = m
      · have hend : (substr.take m).drop (j + 1) = [] := by
          rw [List.drop_eq_nil_iff, List.length_take]
          omega
        rw [if_pos hlast, hend, matchStart]
      · rw [if_neg hlast, ih (by omega) hnext]
    · rw [if_pos heq, if_neg heq]
      dsimp only
      congr 1
      omega

theorem findLoop_false (hn : basestr.length = n) (hm : m ≤ substr.length) (hpos : 0 < m) {i : Nat}
    {rest : List UInt8} (hrest : basestr.drop i = rest) :
    findLoop basestr n substr m false i 0 =
      some (if forwardSearch (substr.take m) rest then .success else .failure) := by
  induction hk : rest.length using Nat.strongRecOn generalizing i rest with
  | ind k ih =>
    have hsub : 0 < (substr.take m).length := by
      rw [List.length_take]
      omega
    have hfirst : substr.take m = (substr.take m)[0] :: (substr.take m).drop 1 := by
      rw [← List.drop_eq_getElem_cons hsub, List.drop_zero]
    cases rest with
    | nil =>
      have hi : ¬ i < n := by
        rw [List.drop_eq_nil_iff] at hrest
        omega
      rw [findLoop, if_neg hi, forwardSearch_eq, hfirst, matchStart]
      rfl
    | cons b rest =>
      obtain ⟨hlength, hb, hnext⟩ := drop_cons hn hrest
      have hi : i < n := by omega
      have hc : substr[0]? = some (substr.take m)[0] := by
        rw [List.getElem_take, List.getElem?_eq_getElem]
      rw [findLoop, if_pos hi, hb, hc]
      dsimp only
      by_cases heq : b = (substr.take m)[0]
      · rw [if_pos heq, findLoop_true hn hm hpos hrest, List.drop_zero, forwardSearch_eq]
        cases hmatch : matchStart (substr.take m) (b :: rest) with
        | found => rfl
        | ended => rfl
        | failed rest' =>
          have hlt := length_failed hmatch
          obtain ⟨w, hw, -⟩ := of_matchStart_failed hmatch
          have hdrop : basestr.drop (n - rest'.length) = rest' := by
            rw [hw] at hrest
            have hsuffix : rest' <:+ basestr :=
              (List.suffix_append w rest').trans (hrest ▸ List.drop_suffix i basestr)
            rw [← hn]
            exact (List.suffix_iff_eq_drop.mp hsuffix).symm
          exact ih rest'.length (hk ▸ hlt) hdrop rfl
      · have hfail : matchStart (substr.take m) (b :: rest) = .failed rest := by
          rw [hfirst, matchStart, if_neg heq]
        rw [if_neg heq, forwardSearch_eq, hfail]
        exact ih rest.length (by rw [← hk, List.length_cons]; omega) hnext rfl

theorem findStrstr_eq (basestr substr : List UInt8) (hn : basestr.length = n)
    (hm : m ≤ substr.length) (hpos : 0 < m) (hlt : m < n) :
    findStrstr basestr n substr m =
      some (if forwardSearch (substr.take m) basestr then .success else .failure) := by
  rw [findStrstr, if_neg (by omega), findLoop_false hn hm hpos List.drop_zero]

/-- The result is right exactly when the search comes to the substring, if it occurs. -/
theorem findsSubstring_iff {base sub : List UInt8} (hsub : sub ≠ [])
    (hlt : sub.length < base.length) :
    FindsSubstring base sub ↔ (sub <:+: base → Met sub base) := by
  have hfind := findStrstr_eq base sub rfl (Nat.le_refl _) (List.length_pos_of_ne_nil hsub) hlt
  rw [List.take_length] at hfind
  rw [FindsSubstring, hfind]
  simp only [Option.some.injEq, exists_eq_left']
  rw [← forwardSearch_iff]
  constructor
  · intro h hinfix
    by_contra hno
    rw [if_neg hno] at h
    exact absurd (h.mpr hinfix) (by decide)
  · intro h
    by_cases hfound : forwardSearch sub base = true
    · rw [if_pos hfound]
      exact iff_of_true rfl (forwardSearch_iff.mp hfound).isInfix
    · rw [if_neg hfound]
      exact iff_of_false (by decide) fun hinfix => hfound (h hinfix)

end

/-! ## The client -/

variable {name : List Char} {args : List UInt8}

/-- A process is taken for the client. -/
def Taken (name : List Char) (args : List UInt8) (p : Proc) : Prop :=
  Running name p ∧ MetArgs args p

theorem length_cmdlineBuffer (bytes : List UInt8) : (cmdlineBuffer bytes).length = 512 := by
  rw [cmdlineBuffer, List.length_append, List.length_replicate, List.length_take]
  omega

/-- What occurs in the buffer occurs in the command line. -/
theorem infix_cmdlineBuffer {bytes : List UInt8} (hargs : args ≠ []) (hnul : (0 : UInt8) ∉ args)
    (h : args <:+: cmdlineBuffer bytes) : args <:+: bytes := by
  rw [cmdlineBuffer] at h
  cases hpad : List.replicate (512 - (bytes.take 511).length) (0 : UInt8) with
  | nil =>
    rw [hpad, List.append_nil] at h
    exact h.trans (List.take_prefix _ _).isInfix
  | cons z pad =>
    have hz : z = 0 := List.eq_of_mem_replicate (hpad ▸ List.mem_cons_self ..)
    rw [hpad, hz, infix_beside hnul] at h
    obtain h | h := h
    · exact h.trans (List.take_prefix _ _).isInfix
    · obtain ⟨c, hc⟩ := List.exists_mem_of_ne_nil args hargs
      have hmem : c ∈ z :: pad := List.mem_cons_of_mem _ (h.subset hc)
      rw [← hpad] at hmem
      exact absurd (List.eq_of_mem_replicate hmem ▸ hc) hnul

theorem findStrstr_cmdline (bytes : List UInt8) (hargs : args ≠ []) (hnul : (0 : UInt8) ∉ args) :
    findStrstr (cmdlineBuffer bytes) 512 (args ++ [0]) args.length =
      some (if forwardSearch args (cmdlineBuffer bytes) then .success else .failure) := by
  by_cases hlt : args.length < 512
  · have hfind := findStrstr_eq _ (args ++ [0]) (length_cmdlineBuffer bytes)
      (by simp) (List.length_pos_of_ne_nil hargs) hlt
    rw [List.take_left] at hfind
    exact hfind
  · have hno : ¬ forwardSearch args (cmdlineBuffer bytes) = true := by
      intro hfound
      have hinfix := (forwardSearch_iff.mp hfound).isInfix
      -- the last byte of the buffer is NUL
      have hlast : (cmdlineBuffer bytes).getLast? = some 0 := by
        have hpad : 512 - (bytes.take 511).length = 511 - (bytes.take 511).length + 1 := by
          rw [List.length_take]
          omega
        rw [cmdlineBuffer, hpad, List.replicate_succ', ← List.append_assoc, List.getLast?_concat]
      have heq : args = cmdlineBuffer bytes := by
        apply hinfix.eq_of_length
        have hle := hinfix.length_le
        rw [length_cmdlineBuffer] at hle ⊢
        omega
      rw [← heq] at hlast
      exact hnul (List.mem_of_getLast? hlast)
    rw [findStrstr, if_pos (by omega), if_neg hno]

theorem getPidFrom_taken {p : Proc} {procs : List Proc} {status : Char} (hargs : args ≠ [])
    (hnul : (0 : UInt8) ∉ args) (h : Taken name args p) :
    getPidFrom name (some args) (p :: procs) status = some p.pid := by
  obtain ⟨⟨text, htext, hname, c, hc, hrunning⟩, bytes, hbytes, hne, hmet⟩ := h
  have hfind := findStrstr_cmdline bytes hargs hnul
  rw [if_pos (forwardSearch_iff.mpr hmet)] at hfind
  rw [getPidFrom, Option.mem_def.mp htext]
  simp only [Option.mem_def.mp hc, Option.getD_some, hname, hrunning, and_self, if_true,
    Option.mem_def.mp hbytes, if_neg hne, hfind]

theorem getPidFrom_not_taken {p : Proc} (procs : List Proc) (status : Char) (hargs : args ≠ [])
    (hnul : (0 : UInt8) ∉ args) (h : ¬ Taken name args p) :
    ∃ status', getPidFrom name (some args) (p :: procs) status =
      getPidFrom name (some args) procs status' := by
  rw [getPidFrom]
  cases htext : p.stat with
  | none => exact ⟨status, rfl⟩
  | some text =>
    obtain ⟨c, hc⟩ := Option.isSome_iff_exists.mp (p.whole text htext)
    simp only [hc, Option.getD_some]
    refine ⟨c, ?_⟩
    by_cases hrunning : (scanStat text).name = name ∧ c ∈ ['R', 'S', 'D']
    · rw [if_pos hrunning]
      cases hbytes : p.cmdline with
      | none => rfl
      | some bytes =>
        by_cases hne : bytes = []
        · simp only [if_pos hne]
        · have hno : ¬ forwardSearch args (cmdlineBuffer bytes) = true := by
            rw [forwardSearch_iff]
            intro hmet
            exact h ⟨⟨text, htext, hrunning.1, c, hc, hrunning.2⟩, bytes, hbytes, hne, hmet⟩
          simp only [if_neg hne, findStrstr_cmdline bytes hargs hnul, if_neg hno]
    · rw [if_neg hrunning]

/-- The first process that is taken for the client is returned, and 0 without one. -/
theorem getPidFrom_spec (name : List Char) (hargs : args ≠ []) (hnul : (0 : UInt8) ∉ args)
    (procs : List Proc) (status : Char) :
    (∃ p ∈ procs, Taken name args p ∧ getPidFrom name (some args) procs status = some p.pid) ∨
      (∀ p ∈ procs, ¬ Taken name args p) ∧ getPidFrom name (some args) procs status = some 0 := by
  induction procs generalizing status with
  | nil => exact .inr ⟨by simp, rfl⟩
  | cons p procs ih =>
    by_cases htaken : Taken name args p
    · exact .inl ⟨p, List.mem_cons_self .., htaken, getPidFrom_taken hargs hnul htaken⟩
    · obtain ⟨status', hrest⟩ := getPidFrom_not_taken procs status hargs hnul htaken
      rw [hrest]
      obtain ⟨q, hq, hresult⟩ | ⟨hnone, hresult⟩ := ih status'
      · exact .inl ⟨q, List.mem_cons_of_mem _ hq, hresult⟩
      · exact .inr ⟨List.forall_mem_cons.mpr ⟨htaken, hnone⟩, hresult⟩

/-- A process that is taken for the client has the arguments. -/
theorem hasArgs_of_metArgs {p : Proc} (hargs : args ≠ []) (hnul : (0 : UInt8) ∉ args)
    (h : MetArgs args p) : HasArgs args p := by
  obtain ⟨bytes, hbytes, -, hmet⟩ := h
  exact ⟨bytes, hbytes, infix_cmdlineBuffer hargs hnul hmet.isInfix⟩

theorem findsClient_iff (procs : List Proc) (hargs : args ≠ []) (hnul : (0 : UInt8) ∉ args) :
    FindsClient procs name args ↔
      ((∃ p ∈ procs, Running name p ∧ HasArgs args p) →
        ∃ p ∈ procs, Running name p ∧ MetArgs args p) := by
  rw [FindsClient, utilGetPidByName]
  obtain ⟨p, hp, ⟨hrunning, hmet⟩, hresult⟩ | ⟨hnone, hresult⟩ :=
    getPidFrom_spec name hargs hnul procs '\x00'
  · have hclient := hasArgs_of_metArgs hargs hnul hmet
    exact iff_of_true ⟨p.pid, hresult, fun _ => ⟨p, hp, hrunning, hclient, rfl⟩⟩
      fun _ => ⟨p, hp, hrunning, hmet⟩
  · constructor
    · rintro ⟨pid, hpid, hfound⟩ hclient
      obtain ⟨p, -, -, -, heq⟩ := hfound hclient
      have hzero := Option.some.inj (hresult.symm.trans hpid)
      exact absurd (hzero.trans heq.symm).symm (Nat.ne_of_gt p.pos)
    · intro h
      refine ⟨0, hresult, fun hclient => ?_⟩
      obtain ⟨p, hp, hrunning, hmet⟩ := h hclient
      exact absurd ⟨hrunning, hmet⟩ (hnone p hp)

/-- The search is right exactly when it comes to the substring, and a running client is found
exactly when the search comes to the arguments in the command line of one. -/
theorem search_right_iff (base sub : List UInt8) (hsub : sub ≠ []) (hlt : sub.length < base.length)
    (procs : List Proc) (name : List Char) (args : List UInt8) (hargs : args ≠ [])
    (hnul : (0 : UInt8) ∉ args) :
    (FindsSubstring base sub ↔ (sub <:+: base → Met sub base)) ∧
      (FindsClient procs name args ↔
        ((∃ p ∈ procs, Running name p ∧ HasArgs args p) →
          ∃ p ∈ procs, Running name p ∧ MetArgs args p)) :=
  ⟨findsSubstring_iff hsub hlt, findsClient_iff procs hargs hnul⟩

/-! ## Examples -/

namespace Example

def bytes (s : String) : List UInt8 := s.toList.map fun c => UInt8.ofNat c.toNat

def client : Proc where
  pid := 731
  stat := some "731 (udhcpc) S 1 731".toList
  cmdline := some (bytes "udhcpc\x00-i\x00erouter0\x00")
  pos := by decide
  whole := by decide +kernel

end Example

theorem search_right_erouter0 :
    FindsSubstring (Example.bytes "-i\x00erouter0") (Example.bytes "erouter0") ∧
      FindsClient [Example.client] "udhcpc".toList (Example.bytes "erouter0") := by
  have hiff := search_right_iff (Example.bytes "-i\x00erouter0") (Example.bytes "erouter0")
    (by decide) (by decide) [Example.client] "udhcpc".toList (Example.bytes "erouter0")
    (by decide) (by decide)
  refine ⟨hiff.1.mpr fun _ => forwardSearch_iff.mp (by decide +kernel), hiff.2.mpr fun _ => ?_⟩
  refine ⟨Example.client, List.mem_singleton_self _, ?_, ?_⟩
  · exact ⟨_, rfl, by decide +kernel, 'S', by decide +kernel, by decide⟩
  · exact ⟨_, rfl, by decide, forwardSearch_iff.mp (by decide +kernel)⟩

/-- An occurrence that begins at the byte where a comparison fails is passed by. -/
theorem occurrence_passed :
    ¬ FindsSubstring (Example.bytes "eerouter0") (Example.bytes "erouter0") := by
  rw [findsSubstring_iff (by decide) (by decide), ← forwardSearch_iff]
  intro h
  have hnot : ¬ forwardSearch (Example.bytes "erouter0") (Example.bytes "eerouter0") = true := by
    decide +kernel
  exact hnot (h ⟨[101], [], by decide⟩)

end ProcessSearch

end WanManager
