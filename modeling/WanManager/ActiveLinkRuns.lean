import WanManager.ActiveLinks

/-! # Runs of the marks

One selection thread after another, for one group: whatever else happens to its interfaces, nobody
but the thread sets a mark. An interface that is disabled with its mark set is left out by the
loops that change the marks; the law is about runs in which these loops meet none. -/

namespace WanManager
open Concurrency

namespace ActiveLinks
open Policy ParallelScan

/-! ## The pool -/

/-- What others may do to the marks: an interface may leave the group, and one that comes, or is
changed, has its mark cleared. -/
structure LinkEvents (x : PolicyView) (store : Store) (x' : PolicyView) (store' : Store) : Prop where
  self : x'.self = x.self
  links : ∀ i, (links x' i = links x i ∧ store' i = store i) ∨
    ∀ b, links x' i = some b → b = false ∧ store' i = false

/-- A new thread for the group. -/
def renewed (t : PolicyThread) : PolicyThread :=
  { phase := .created .parallelScan, ctrl := { groupInst := t.ctrl.groupInst } }

inductive LinkEnv : PolicyView × Store → PolicyView × Store → Prop
  | events {x x' store store'} : LinkEvents x store x' store' → LinkEnv (x, store) (x', store')
  | renew {x store} : x.self.phase = .exited → LinkEnv (x, store) ({ x with self := renewed x.self }, store)

def pool : Pool Site Unit (PolicyView × Store) where
  body _ := Policy.tick.record note
  ready _ y := y.1.self.Live
  env := LinkEnv

instance : ∀ t y, Decidable (pool.ready t y) := fun _ y => inferInstanceAs (Decidable y.1.self.Live)

/-- A thread that was just created, for a group whose marks are stored. -/
structure Created (y : PolicyView × Store) : Prop where
  phase : y.1.self.phase = .created .parallelScan
  books : Books y

/-- The loops of `Transition_Start` and `Transition_SelectingInterface` meet no other interface that
is disabled with its mark set. -/
def MarkedEnabled (l : Site) (x : PolicyView) : Prop :=
  match l with
  | .scanIface i => (x.self.phase = .created .parallelScan ∨ selecting x.self) →
      x.self.ctrl.activeInterfaceIdx ≠ some i →
      ∀ d ∈ member x i, d.selection.activeLink → d.selection.enable
  | _ => True

instance (l : Site) (x : PolicyView) : Decidable (MarkedEnabled l x) := by
  unfold MarkedEnabled
  split <;> infer_instance

/-- The phases between two ticks. -/
def AtRest (t : PolicyThread) : Prop :=
  match t.phase with
  | .created p => p = .parallelScan
  | .parallelScan st => st = .scanningInterface → t.ctrl.activeInterfaceIdx = none
  | .autoWan _ => False
  | .absent | .exited => True

def protocol : Protocol Site Unit (PolicyView × Store) where
  inv := Books
  rely _ y y' := (y'.1.self = y.1.self ∨ y.1.self.phase = .exited ∧ y'.1.self = renewed y.1.self) ∧
    ∀ i, links y'.1 i = some true → links y.1 i = some true
  rest _ y := AtRest y.1.self
  guard l y := MarkedEnabled l y.1
  refl _ _ := ⟨.inl rfl, fun _ h => h⟩
  trans := by
    rintro _ a b c ⟨hself, hlinks⟩ ⟨hself', hlinks'⟩
    refine ⟨?_, fun i hi => hlinks i (hlinks' i hi)⟩
    rcases hself' with hsame | ⟨hexit, hnew⟩
    · rwa [hsame]
    · rcases hself with hsame' | ⟨-, hnew'⟩
      · exact .inr ⟨hsame' ▸ hexit, by rw [hnew, hsame']⟩
      · rw [hnew'] at hexit
        exact nomatch hexit

abbrev contract : Contract Site (PolicyView × Store) := protocol.contract ()

theorem Books.env {y y' : PolicyView × Store} (h : Books y) (he : LinkEnv y y') :
    Books y' ∧ protocol.rely () y y' := by
  cases he with
  | @renew x store hexit =>
    refine ⟨⟨h.agrees, fun _ => h.single fun hsel => ?_⟩, .inr ⟨hexit, rfl⟩, fun _ hi => hi⟩
    exact nomatch hsel.1.symm.trans hexit
  | @events x x' store store' he =>
    have hmarks : ∀ i, links x' i = some true → links x i = some true := fun i hi => by
      rcases he.links i with ⟨hsame, -⟩ | hfalse
      · rwa [← hsame]
      · exact nomatch (hfalse true hi).1
    refine ⟨⟨fun i b hb => ?_, fun hsel i j hi hj => ?_⟩, .inl he.self, hmarks⟩
    · rcases he.links i with ⟨hsame, hstore⟩ | hfalse
      · exact hstore.trans (h.agrees i b (hsame ▸ hb))
      · obtain ⟨rfl, hstore⟩ := hfalse b hb
        exact hstore
    · have hsel' : ¬ selecting x.self := fun hx => hsel (he.self ▸ hx)
      exact h.single hsel' i j (hmarks i hi) (hmarks j hj)

/-! ## What the thread knows -/

/-- `A` of its own record, and interfaces whose marks are not set. -/
structure Knows (A : PolicyThread → Prop) (s : PolicyThread → Nat → Prop) (y : PolicyView × Store) :
    Prop where
  live : y.1.self.Live
  own : A y.1.self
  clear : ∀ i, s y.1.self i → links y.1 i ≠ some true

theorem stable_knows (A : PolicyThread → Prop) (s : PolicyThread → Nat → Prop) :
    contract.Stable (Knows A s) := by
  rintro y y' h ⟨hself, hlinks⟩ -
  have hsame : y'.1.self = y.1.self := hself.resolve_right fun hexit => h.live.2 hexit.1
  refine ⟨hsame ▸ h.live, hsame ▸ h.own, fun i hi htrue => ?_⟩
  exact h.clear i (hsame ▸ hi) (hlinks i htrue)

/-- A program of the thread, from what it knows before to what it knows after. -/
abbrev Marks {α : Type} (A : PolicyThread → Prop) (s : PolicyThread → Nat → Prop) (p : PolicyProg α)
    (B : α → PolicyThread → Prop) (r : α → PolicyThread → Nat → Prop) : Prop :=
  Noted contract note (Knows A s) p fun a => Knows (B a) (r a)

section Rules

variable {α : Type} {A : PolicyThread → Prop} {s : PolicyThread → Nat → Prop}
  {B : α → PolicyThread → Prop} {r : α → PolicyThread → Nat → Prop} {l : Site}
  {m : PolicyView → α × PolicyView}

theorem Marks.critical (h : ∀ x store, Books (x, store) → MarkedEnabled l x → Knows A s (x, store) →
      Books ((m x).2, note l x (m x).2 store) ∧
        Knows (B (m x).1) (r (m x).1) ((m x).2, note l x (m x).2 store)) :
    Marks A s (.critical l m) B r :=
  Noted.critical (stable_knows A s) (fun _ => stable_knows _ _) fun y hi hg hk =>
    ⟨⟨(h y.1 y.2 hi hg hk).1, fun _ hu => absurd rfl hu⟩, fun _ => (h y.1 y.2 hi hg hk).2⟩

/-- Nothing is marked and nothing written. -/
structure Silent (l : Site) (x x' : PolicyView) : Prop where
  links : links x' = links x
  writes : ∀ i, writes l x x' i = none
  live : x'.self.Live

theorem Books.silent {x x' : PolicyView} {store : Store} (h : Books (x, store)) (hs : Silent l x x')
    (hsingle : ¬ selecting x'.self → Single x) : Books (x', note l x x' store) := by
  refine ⟨fun i b hb => ?_, fun hsel i j hi hj => ?_⟩
  · rw [hs.links] at hb
    show (writes l x x' i).getD (store i) = b
    rw [hs.writes]
    exact h.agrees i b hb
  · rw [hs.links] at hi hj
    exact hsingle hsel i j hi hj

/-- A section that does not end a selection. -/
theorem Marks.silent (h : ∀ x, (∀ i, s x.self i → links x i ≠ some true) → MarkedEnabled l x →
      x.self.Live → A x.self → Silent l x (m x).2 ∧ B (m x).1 (m x).2.self ∧
        (selecting x.self → selecting (m x).2.self) ∧
        ∀ i, r (m x).1 (m x).2.self i → s x.self i ∨ links x i ≠ some true) :
    Marks A s (.critical l m) B r := by
  refine Marks.critical fun x store hi hg hk => ?_
  obtain ⟨hs, hB, hsel, hclear⟩ := h x hk.clear hg hk.live hk.own
  refine ⟨hi.silent hs fun hx => hi.single fun hold => hx (hsel hold), hs.live, hB, fun i hi => ?_⟩
  rw [hs.links]
  rcases hclear i hi with hold | hnot
  · exact hk.clear i hold
  · exact hnot

end Rules

/-! ## The sections of the thread -/

abbrev At (P : PolicyPhase → Option Nat → Prop) (t : PolicyThread) : Prop :=
  P t.phase t.ctrl.activeInterfaceIdx

def nowhere (_ : PolicyThread) (_ : Nat) : Prop := False

/-- The interfaces that were not in the table when the thread last looked. -/
def beyond (t : PolicyThread) (i : Nat) : Prop := t.ctrl.totalIfaces ≤ i

section Sections

variable {P : PolicyPhase → Option Nat → Prop} {s r : PolicyThread → Nat → Prop}

/-- The thread changes its controller, and keeps the selected interface. -/
theorem marks_ctrl {l : Site} {f : PolicyView → PolicyView}
    (hf : ∀ x, f x = x.mapCtrl fun _ => (f x).self.ctrl)
    (hinst : ∀ x, (f x).self.ctrl.groupInst = x.self.ctrl.groupInst)
    (hidx : ∀ x, (f x).self.ctrl.activeInterfaceIdx = x.self.ctrl.activeInterfaceIdx)
    (hwrites : ∀ x, At P x.self → MarkedEnabled l x → ∀ i, writes l x (f x) i = none)
    (hr : ∀ x i, r (f x).self i → s x.self i ∨ links x i ≠ some true) :
    Marks (At P) s (.modify l f) (fun _ => At P) fun _ => r := by
  refine Marks.silent fun x _ hg hlive hA => ?_
  show Silent l x (f x) ∧ At P (f x).self ∧ (selecting x.self → selecting (f x).self) ∧
    ∀ i, r (f x).self i → _
  have hphase : (f x).self.phase = x.self.phase := by rw [hf x]; rfl
  have hshared : (f x).shared = x.shared := by rw [hf x]; rfl
  refine ⟨⟨links_congr (by rw [hshared]) (hinst x), hwrites x hA hg, ?_⟩, ?_, ?_, hr x⟩
  · rw [PolicyThread.Live, hphase]
    exact hlive
  · rw [At, hphase, hidx]
    exact hA
  · rw [selecting, selecting, hphase, hidx]
    exact id

theorem links_beyond_table {x : PolicyView} {i : Nat} (hi : x.shared.ifaces.length ≤ i) :
    links x i = none := by
  rw [links, link?, member?, List.getElem?_eq_none hi]
  rfl

theorem updateControllerData_marks :
    Marks (At P) nowhere updateControllerData (fun _ => At P) fun _ => beyond := by
  refine Noted.bind (Q := fun _ => Knows (At P) nowhere) ?_ fun _ =>
    Noted.bind (Q := fun _ => Knows (At P) beyond) ?_ fun _ => ?_
  · exact marks_ctrl (fun _ => rfl) (fun _ => rfl) (fun _ => rfl) (fun _ _ _ _ => rfl) fun _ _ => .inl
  · refine marks_ctrl (fun _ => rfl) (fun _ => rfl) (fun _ => rfl) (fun _ _ _ _ => rfl) fun x i hi => ?_
    rw [links_beyond_table hi]
    exact .inr nofun
  · refine marks_ctrl (fun x => ?_) (fun x => ?_) (fun x => ?_) (fun _ _ _ _ => rfl) fun x i hi => .inl ?_
    · unfold copyGroup; split <;> rfl
    · unfold copyGroup; split <;> rfl
    · unfold copyGroup; split <;> rfl
    · unfold copyGroup at hi; split at hi <;> exact hi

theorem marks_read {α : Type} {l : Site} {g : PolicyView → α} {B : α → PolicyThread → Prop}
    (hwrites : ∀ x, At P x.self → ∀ i, writes l x x i = none)
    (hB : ∀ x, At P x.self → B (g x) x.self) : Marks (At P) s (.read l g) B fun _ => s :=
  Marks.silent fun x _ _ hlive hA => ⟨⟨rfl, hwrites x hA, hlive⟩, hB x hA, id, fun _ => .inl⟩

/-- The data base is changed, but not the marks. -/
theorem marks_shared {l : Site} {f : PolicyView → PolicyView} (hself : ∀ x, (f x).self = x.self)
    (hlinks : ∀ x, links (f x) = links x) (hwrites : ∀ x x' i, writes l x x' i = none)
    {A : PolicyThread → Prop} : Marks A s (.modify l f) (fun _ => A) fun _ => s := by
  refine Marks.silent fun x _ _ hlive hA => ?_
  show Silent l x (f x) ∧ A (f x).self ∧ (selecting x.self → selecting (f x).self) ∧
    ∀ i, s (f x).self i → _
  rw [hself x]
  exact ⟨⟨hlinks x, hwrites x (f x), by rw [hself x]; exact hlive⟩, hA, id, fun _ => .inl⟩

theorem startIface_writes {x : PolicyView} {j : Nat}
    (hA : At (fun p idx => p = .created .parallelScan ∧ idx = none) x.self)
    (hg : MarkedEnabled (.scanIface j) x) (x' : PolicyView) (i : Nat) :
    writes (.scanIface j) x x' i = none := by
  obtain ⟨hphase, hidx⟩ := hA
  by_cases hij : i = j
  · subst hij
    simp only [writes, hphase, ne_eq, not_true_eq_false, if_false, if_true, startWrites]
    cases hd : member x i with
    | none => rfl
    | some d =>
      have henabled := hg (.inl hphase) (by rw [hidx]; exact nofun) d hd
      cases hlink : d.selection.activeLink with
      | false => simp [hlink]
      | true => simp [henabled hlink]
  · simp [writes, hij]

theorem start_marks : Marks (At fun p _ => p = .created .parallelScan) nowhere start
    (fun _ => At fun p idx => p = .parallelScan .scanningInterface ∧ idx = none) fun _ => nowhere := by
  have hcreated : Marks (At fun p _ => p = .created .parallelScan) nowhere
      (setCtrl fun c => { ({} : PolicyController) with groupInst := c.groupInst })
      (fun _ => At fun p idx => p = .created .parallelScan ∧ idx = none) fun _ => nowhere :=
    Marks.silent fun x _ _ hlive hA => ⟨⟨rfl, fun _ => rfl, hlive⟩, ⟨hA, rfl⟩,
      fun hsel => (nomatch hA.symm.trans hsel.1), fun _ => .inl⟩
  refine Noted.bind hcreated fun _ => Noted.bind updateControllerData_marks fun _ => ?_
  refine Noted.bind (Q := fun _ => Knows (At fun p idx => p = .created .parallelScan ∧ idx = none)
    beyond) ?_ fun _ => ?_
  · refine Noted.bind (marks_read (B := fun _ => At fun p idx => p = .created .parallelScan ∧ idx = none)
      (fun _ _ _ => rfl) fun _ hA => hA) fun is => ?_
    refine Noted.bind (Noted.forEach (stable_knows _ _) fun i _ => ?_) fun _ => ?_
    · refine marks_ctrl (fun x => ?_) (fun x => ?_) (fun x => ?_)
        (fun x hA hg => startIface_writes hA hg _) fun x j hj => .inl ?_
      all_goals unfold startIface at *
      all_goals split at *
      all_goals first | rfl | exact hj | (split at * <;> first | rfl | exact hj)
    · refine Noted.bind (marks_shared ?_ ?_ ?_) fun _ => ?_
      · exact fun _ => rfl
      · exact fun x => links_congr (link?_modifyGroup _ _ _ _) rfl
      · exact fun _ _ _ => rfl
      exact marks_ctrl (fun _ => rfl) (fun _ => rfl) (fun _ => rfl) (fun _ _ _ _ => rfl) fun _ _ => .inl
  · exact Marks.silent fun x _ _ hlive hA => ⟨⟨rfl, fun _ => rfl, PolicyPhase.live_parallelScan _⟩,
      ⟨rfl, hA.2⟩, fun hsel => absurd hA.2 hsel.2, fun _ => False.elim⟩

/-! ## Scanning -/

/-- The thread scans and has no selected interface. -/
abbrev Scans : PolicyThread → Prop :=
  At fun p idx => p = .parallelScan .scanningInterface ∧ idx = none

/-- The thread selects interface `k`. -/
abbrev SelectsIface (k : Nat) : PolicyThread → Prop :=
  At fun p idx => p = .parallelScan .scanningInterface ∧ idx = some k

theorem scans_atRest {t : PolicyThread} (h : Scans t) : AtRest t := by
  rw [AtRest, h.1]
  exact fun _ => h.2

theorem scan_reads {x : PolicyView} (h : Scans x.self) (j i : Nat) :
    writes (.scanIface j) x x i = none := by
  obtain ⟨hphase, hidx⟩ := h
  simp [writes, hphase, selecting, hidx]

theorem scanIfaces_marks (c : Scan) (is : List Nat) :
    Marks Scans s (scanIfaces c is) (fun _ => Scans) fun _ => s := by
  induction is generalizing c with
  | nil => exact Noted.ret (stable_knows _ _) fun _ _ hk => hk
  | cons i is ih =>
    refine Noted.bind (marks_read (B := fun _ => Scans) (fun x hA j => scan_reads hA i j)
      fun _ hA => hA) fun r => ?_
    obtain ⟨found, c'⟩ := r
    cases found with
    | true => exact Noted.ret (stable_knows _ _) fun _ _ hk => hk
    | false => exact ih c'

theorem findNewInterface_marks (last : Bool) (is : List Nat) :
    Marks Scans s (findNewInterface last is) (fun _ => Scans) fun _ => s := by
  induction is with
  | nil => exact Noted.ret (stable_knows _ _) fun _ _ hk => hk
  | cons i is ih =>
    refine Noted.bind (marks_read (B := fun _ => Scans) (fun x hA j => scan_reads hA i j)
      fun _ hA => hA) fun new => Noted.ite (fun _ => ?_) fun _ => ih
    exact marks_shared (fun x => transitionNewInterfaceConnected_self i x)
      (fun x => links_newInterfaceConnected) fun _ _ _ => rfl

/-! ## Selecting -/

theorem selectIface_books {k j : Nat} {x : PolicyView} {store : Store} (hi : Books (x, store))
    (hsel : SelectsIface k x.self) :
    Books (selectIface j x, note (.scanIface j) x (selectIface j x) store) := by
  obtain ⟨hphase, hidx⟩ := hsel
  have hselecting : selecting x.self := ⟨hphase, by rw [hidx]; exact nofun⟩
  refine ⟨fun i b hb => ?_, fun hnot => absurd hselecting hnot⟩
  rw [links_selectIface] at hb
  show (writes (.scanIface j) x (selectIface j x) i).getD (store i) = b
  by_cases hij : i = j
  · subst hij
    have hwrites : writes (.scanIface i) x (selectIface i x) i = selectWrites i x := by
      simp [writes, hphase, hselecting]
    rw [if_pos rfl] at hb
    obtain ⟨d, hd, hmark⟩ := Option.map_eq_some_iff.mp hb
    rw [hwrites, selectWrites, hd, Option.bind_some]
    by_cases henable : d.selection.enable = true
    · rw [if_pos henable] at hmark ⊢
      exact hmark
    · rw [if_neg henable] at hmark ⊢
      refine hi.agrees i b ?_
      show (member x i).map _ = _
      rw [hd, Option.map_some, hmark]
  · rw [if_neg (Ne.symm hij)] at hb
    have hwrites : writes (.scanIface j) x (selectIface j x) i = none := by simp [writes, hij]
    rw [hwrites]
    exact hi.agrees i b hb

/-- The loop clears the mark of every interface it meets but the selected one. -/
theorem selectIface_clears {k j : Nat} {x : PolicyView} (hsel : SelectsIface k x.self)
    (hg : MarkedEnabled (.scanIface j) x) (hj : j ≠ k) : links (selectIface j x) j ≠ some true := by
  obtain ⟨hphase, hidx⟩ := hsel
  intro hmark
  rw [links_selectIface, if_pos rfl] at hmark
  obtain ⟨d, hd, hmark⟩ := Option.map_eq_some_iff.mp hmark
  have hne : x.self.ctrl.activeInterfaceIdx ≠ some j := by
    rw [hidx]
    exact fun h => hj (Option.some.inj h).symm
  have henabled := hg (.inr ⟨hphase, by rw [hidx]; exact nofun⟩) hne d hd
  by_cases henable : d.selection.enable = true
  · rw [if_pos henable] at hmark
    exact hne (of_decide_eq_true hmark)
  · rw [if_neg henable] at hmark
    exact henable (henabled hmark)

/-- The interfaces other than `k` that are not in the table, or past which the loop is. -/
def past (k : Nat) (done : Nat → Prop) (t : PolicyThread) (i : Nat) : Prop :=
  i ≠ k ∧ (beyond t i ∨ done i)

theorem selectIfaces_marks {A : PolicyThread → Prop} {k : Nat} (hA : ∀ t, A t → SelectsIface k t)
    (is : List Nat) (done : Nat → Prop) :
    Marks A (past k done) (Prog.forEach is fun j => Prog.modify (.scanIface j) (selectIface j))
      (fun _ => A) fun _ => past k fun i => done i ∨ i ∈ is := by
  induction is generalizing done with
  | nil =>
    refine Noted.ret (stable_knows _ _) fun y _ hk => ⟨hk.live, hk.own, fun i hi => hk.clear i ?_⟩
    exact ⟨hi.1, hi.2.imp_right fun h => h.resolve_right nofun⟩
  | cons j is ih =>
    have hone : Marks A (past k done) (Prog.modify (.scanIface j) (selectIface j)) (fun _ => A)
        fun _ => past k fun i => done i ∨ i = j := by
      refine Marks.critical fun x store hi hg hk => ?_
      refine ⟨selectIface_books hi (hA _ hk.own), hk.live, hk.own, fun i hpast => ?_⟩
      obtain ⟨hne, hpast⟩ := hpast
      show links (selectIface j x) i ≠ some true
      by_cases hij : i = j
      · subst hij
        exact selectIface_clears (hA _ hk.own) hg hne
      · rw [links_selectIface, if_neg (Ne.symm hij)]
        exact hk.clear i ⟨hne, hpast.imp_right fun h => h.resolve_right hij⟩
    refine (Noted.bind hone fun _ => ih _).mono (fun _ _ hk => hk) fun _ y _ hk =>
      ⟨hk.live, hk.own, fun i hi => hk.clear i ⟨hi.1, hi.2.imp_right ?_⟩⟩
    rintro (hdone | hmem)
    · exact .inl (.inl hdone)
    · rcases List.mem_cons.mp hmem with rfl | hmem
      · exact .inl (.inr rfl)
      · exact .inr hmem

theorem transitionSelectingInterface_marks (k : Nat) :
    Marks Scans beyond (transitionSelectingInterface k) (fun _ => AtRest) fun _ => nowhere := by
  have hsets : Marks Scans beyond
      (setCtrl fun c => { c with activeInterfaceIdx := some k, selectionTimeOutStart := 0 })
      (fun _ => SelectsIface k) fun _ => beyond :=
    Marks.silent fun x _ _ hlive hA => ⟨⟨rfl, fun _ => rfl, hlive⟩, ⟨hA.1, rfl⟩,
      fun hsel => absurd hA.2 hsel.2, fun _ => .inl⟩
  have hrange : Marks (SelectsIface k) beyond (.read .thread PolicyView.ifaceRange)
      (fun is t => SelectsIface k t ∧ is = List.range t.ctrl.totalIfaces) fun _ => beyond :=
    Marks.silent fun x _ _ hlive hA => ⟨⟨rfl, fun _ => rfl, hlive⟩, ⟨hA, rfl⟩, id, fun _ => .inl⟩
  refine Noted.bind hsets fun _ => Noted.bind hrange fun is => ?_
  have hloop := selectIfaces_marks (A := fun t => SelectsIface k t ∧ is = List.range t.ctrl.totalIfaces)
    (fun _ h => h.1) is fun _ => False
  refine Noted.bind (hloop.pre fun y _ hk => ⟨hk.live, hk.own, fun i hi => hk.clear i ?_⟩) fun _ => ?_
  · exact hi.2.resolve_right id
  refine Noted.bind (marks_shared (f := setGroupSelected (k + 1)) (fun _ => rfl)
    (fun _ => links_setGroupSelected _) fun _ _ _ => rfl) fun _ => ?_
  refine Marks.critical fun x store hi _ hk => ?_
  obtain ⟨-, hrange⟩ := hk.own
  have honly : ∀ i, links x i = some true → i = k := fun i hmark => by
    by_contra hne
    refine hk.clear i ⟨hne, ?_⟩ hmark
    by_cases hlt : i < x.self.ctrl.totalIfaces
    · exact .inr (.inr (by rw [hrange]; exact List.mem_range.mpr hlt))
    · exact .inl (Nat.le_of_not_lt hlt)
  refine ⟨hi.silent ⟨rfl, fun _ => rfl, PolicyPhase.live_parallelScan _⟩ fun _ i j hmi hmj => ?_,
    PolicyPhase.live_parallelScan _, nofun, fun _ => False.elim⟩
  rw [honly i hmi, honly j hmj]

theorem scanned_marks (c : Scan) :
    Marks Scans beyond (scanned c) (fun _ => AtRest) fun _ => nowhere := by
  have hrange : Marks Scans beyond
      (.read .thread PolicyView.ifaceRange >>= findNewInterface c.lastSelectedFound)
      (fun _ => AtRest) fun _ => nowhere := by
    refine Noted.bind (marks_read (B := fun _ => Scans) (fun _ _ _ => rfl) fun _ hA => hA) fun is => ?_
    exact (findNewInterface_marks c.lastSelectedFound is).mono (fun _ _ hk => hk) fun _ _ _ hk =>
      ⟨hk.live, scans_atRest hk.own, fun _ => False.elim⟩
  cases ha : c.activeIface with
  | none =>
    rw [scanned_none ha]
    exact hrange
  | some i =>
    rw [scanned_some ha]
    refine Noted.bind (marks_read (B := fun _ => Scans) (fun _ _ _ => rfl) fun _ hA => hA) fun _ => ?_
    exact Noted.ite (fun _ => transitionSelectingInterface_marks i) fun _ => hrange

/-- A state that is entered without a selection before or after. -/
theorem setState_marks {st : ParallelScanState} (hst : st ≠ .scanningInterface)
    (hP : ∀ p idx, P p idx → p = .parallelScan .scanningInterface → idx = none) :
    Marks (At P) s (setState st) (fun _ => AtRest) fun _ => nowhere :=
  Marks.silent fun _ _ _ _ hA => ⟨⟨rfl, fun _ => rfl, PolicyPhase.live_parallelScan _⟩, fun h => absurd h hst,
    fun hsel => absurd (hP _ _ hA hsel.1) hsel.2, fun _ => False.elim⟩

theorem stateScanningInterface_marks :
    Marks Scans beyond stateScanningInterface (fun _ => AtRest) fun _ => nowhere := by
  refine Noted.bind (marks_read (B := fun _ => Scans) (fun _ _ _ => rfl) fun _ hA => hA) fun c =>
    Noted.ite (fun _ => setState_marks nofun fun _ _ h _ => h.2) fun _ => ?_
  refine Noted.bind (marks_read (B := fun _ => Scans) (fun _ _ _ => rfl) fun _ hA => hA) fun is => ?_
  exact Noted.bind (scanIfaces_marks {} is) scanned_marks

/-! ## The loop -/

/-- The thread is in a state of its loop, and not inside a selection. -/
abbrev InState (st : ParallelScanState) : PolicyThread → Prop :=
  At fun p idx => p = .parallelScan st ∧ (st = .scanningInterface → idx = none)

theorem unlockedState_marks (st : ParallelScanState) :
    Marks (InState st) beyond (unlockedState st) (fun _ => AtRest) fun _ => nowhere := by
  have hidx : ∀ (p : PolicyPhase) (idx : Option Nat),
      (p = .parallelScan st ∧ (st = .scanningInterface → idx = none)) →
      p = .parallelScan .scanningInterface → idx = none := by
    rintro p idx ⟨rfl, hnone⟩ hp
    exact hnone (PolicyPhase.parallelScan.inj hp)
  have hstays (hst : st ≠ .scanningInterface) :
      Marks (InState st) beyond (.ret ()) (fun _ => AtRest) fun _ => nowhere := by
    refine Noted.ret (stable_knows _ _) fun y _ hk => ⟨hk.live, ?_, fun _ => False.elim⟩
    show AtRest y.1.self
    rw [AtRest, hk.own.1]
    exact fun h => absurd h hst
  cases st with
  | scanningInterface =>
    exact stateScanningInterface_marks.pre fun y _ hk => ⟨hk.live, ⟨hk.own.1, hk.own.2 rfl⟩, hk.clear⟩
  | checkReconfiguration =>
    refine Noted.bind (marks_read (B := fun _ => InState .checkReconfiguration) (fun _ _ _ => rfl)
      fun _ hA => hA) fun c => Noted.ite (fun _ => setState_marks nofun hidx) fun _ => ?_
    refine Noted.bind (marks_read (B := fun _ => InState .checkReconfiguration) (fun _ _ _ => rfl)
      fun _ hA => hA) fun required => setState_marks ?_ hidx
    split <;> exact nofun
  | reboot | policyExit | policyError => exact hstays nofun
  | reconfigurePlatform | selectedInterfaceUp | selectedInterfaceDown | interfaceTearDown =>
    exact setState_marks nofun hidx

/-- The marks in `p` are cleared, and stored so. -/
theorem Books.cleared {l : Site} {x x' : PolicyView} {store : Store} (h : Books (x, store))
    (hsingle : Single x) (p : Nat → Prop) [DecidablePred p]
    (hmarks : ∀ j, links x' j = if p j then (links x j).map fun _ => false else links x j)
    (hwrites : ∀ j, writes l x x' j = if p j then (member x j).map fun _ => false else none) :
    Books (x', note l x x' store) := by
  have hkept : ∀ j, links x' j = some true → links x j = some true := fun j hj => by
    rw [hmarks] at hj
    split at hj
    · obtain ⟨_, -, hfalse⟩ := Option.map_eq_some_iff.mp hj
      exact nomatch hfalse
    · exact hj
  refine ⟨fun j b hb => ?_, fun _ i j hi hj => hsingle i j (hkept i hi) (hkept j hj)⟩
  rw [hmarks] at hb
  show (writes l x x' j).getD (store j) = b
  rw [hwrites]
  by_cases hp : p j
  · rw [if_pos hp] at hb ⊢
    obtain ⟨mark, hmark, rfl⟩ := Option.map_eq_some_iff.mp hb
    obtain ⟨d, hd, -⟩ := Option.map_eq_some_iff.mp hmark
    have hmember : member x j = some d := hd
    rw [hmember]
    rfl
  · rw [if_neg hp] at hb ⊢
    exact h.agrees j b hb

/-- A state with a selected interface, and what is written in it. -/
theorem lockedState_books {st : ParallelScanState} {i : Nat} {d : WanIface} {x : PolicyView} {store : Store}
    (hi : Books (x, store)) (hst : st ≠ .scanningInterface) (hphase : x.self.phase = .parallelScan st) :
    Books (enterState (lockedState st i d x),
        note .policyState x (enterState (lockedState st i d x)) store) ∧
      AtRest (enterState (lockedState st i d x)).self := by
  have hsingle : Single x :=
    hi.single fun hsel => hst (PolicyPhase.parallelScan.inj (hphase.symm.trans hsel.1))
  have houtcome := outcome_lockedState (i := i) (d := d) (x := x) hst
  generalize lockedState st i d x = r at houtcome
  have hlinks : links (enterState r) = links r.2 := rfl
  have hwrites : ∀ j, writes .policyState x (enterState r) j =
      if restarts st r.1 then restartWrites x j
      else if tearsDown st r.1 then tearDownWrites x j else none := fun j => by
    simp only [writes, hphase]
    rfl
  cases houtcome with
  | same hsame hrestarts htears hne =>
    refine ⟨hi.silent ⟨hsame, fun j => ?_, PolicyPhase.live_parallelScan _⟩ fun _ => hsingle,
      fun h => absurd h hne⟩
    rw [hwrites, hrestarts, htears]
    rfl
  | restart hrestarts hidx hmarks =>
    refine ⟨hi.cleared hsingle (· < x.self.ctrl.totalIfaces) hmarks fun j => ?_, fun _ => hidx⟩
    rw [hwrites, hrestarts]
    rfl
  | tearDown htears hmarks =>
    have hto : r.1 = .interfaceTearDown := by
      rw [tearsDown, Bool.and_eq_true] at htears
      exact eq_of_beq htears.2
    refine ⟨hi.cleared hsingle (fun j => x.self.ctrl.groupCfgChanged ∧ j < x.self.ctrl.totalIfaces)
      hmarks fun j => ?_, fun h => absurd (hto.symm.trans h) nofun⟩
    have hrestarts : restarts st r.1 = false := by
      rw [hto, restarts]
      exact Bool.and_false _
    rw [hwrites, hrestarts, htears]
    cases hchanged : x.self.ctrl.groupCfgChanged with
    | true => simp [tearDownWrites, restartWrites, hchanged]
    | false => simp [tearDownWrites, hchanged]

theorem stable_rest : contract.Stable fun y => AtRest y.1.self := by
  rintro y y' hrest ⟨hself, -⟩ -
  rcases hself with hsame | ⟨-, hnew⟩
  · show AtRest y'.1.self
    rw [hsame]
    exact hrest
  · show AtRest y'.1.self
    rw [hnew]
    rfl

theorem policyExit_marks {A : PolicyThread → Prop} (hA : ∀ t, A t → ¬ selecting t) :
    Noted contract note (Knows A nowhere) policyExit fun _ y => AtRest y.1.self := by
  refine Noted.bind (marks_shared (A := A) (s := nowhere) (fun x => ?_) (fun x => ?_) fun _ _ _ => rfl)
    fun _ => ?_
  · split <;> rfl
  · split <;> rfl
  · refine Noted.critical (stable_knows _ _) (fun _ => stable_rest) fun y hi _ hk => ?_
    have hlinks : links (leaveGroup y.1) = links y.1 := links_congr (link?_modifyGroup _ _ _ _) rfl
    refine ⟨⟨⟨fun i b hb => ?_, fun _ i j hmi hmj => ?_⟩, fun _ hu => absurd rfl hu⟩,
      fun _ => trivial⟩
    · have hb' : links (leaveGroup y.1) i = some b := hb
      rw [hlinks] at hb'
      exact hi.agrees i b hb'
    · have hmarked : links (leaveGroup y.1) i = some true ∧
          links (leaveGroup y.1) j = some true := ⟨hmi, hmj⟩
      rw [hlinks] at hmarked
      exact hi.single (hA _ hk.own) i j hmarked.1 hmarked.2

theorem loop_marks (st : ParallelScanState) :
    Noted contract note (Knows (InState st) nowhere) (loop st) fun _ y => AtRest y.1.self := by
  have hstates : Noted contract note (Knows (InState st) beyond)
      (Prog.lockedIf .policyState PolicyView.activeIface?
        (fun a => .modify .policyState fun x => enterState (lockedState st a.1 a.2 x))
        (unlockedState st)) fun _ => Knows AtRest nowhere := by
    refine Noted.lockedIf (stable_knows _ _) (fun _ => stable_knows _ _) (fun y a hi _ hk ha => ?_)
      (fun y hi _ hk _ => ?_) (unlockedState_marks st)
    · have hst : st ≠ .scanningInterface := fun hst => by
        rw [PolicyView.activeIface?, hk.own.2 hst] at ha
        cases ha
      obtain ⟨hbooks, hrest⟩ := lockedState_books (i := a.1) (d := a.2) hi hst hk.own.1
      exact ⟨⟨hbooks, fun _ hu => absurd rfl hu⟩,
        fun _ => ⟨PolicyPhase.live_parallelScan _, hrest, fun _ => False.elim⟩⟩
    · have hnone : ∀ i, writes .policyState y.1 y.1 i = none := fun i => by
        have hphase : y.1.self.phase = .parallelScan st := hk.own.1
        simp only [writes, hphase]
        cases st <;> rfl
      have hnote : note .policyState y.1 y.1 y.2 = y.2 := by
        funext i
        show (writes .policyState y.1 y.1 i).getD (y.2 i) = y.2 i
        rw [hnone]
        rfl
      rw [hnote]
      exact ⟨⟨hi, fun _ hu => absurd rfl hu⟩, fun _ => hk⟩
  refine Noted.bind updateControllerData_marks fun _ => Noted.bind hstates fun _ =>
    Noted.ite (fun _ => ?_) fun _ => ?_
  · refine policyExit_marks fun t hrest hsel => ?_
    rw [AtRest, hsel.1] at hrest
    exact hsel.2 (hrest rfl)
  · exact Noted.ret stable_rest fun y _ hk => hk.own

theorem tick_marks : Noted contract note (Knows AtRest nowhere) Policy.tick fun _ y => AtRest y.1.self := by
  have hread : Marks AtRest nowhere (.read .thread (·.self.phase))
      (fun p t => t.phase = p ∧ AtRest t) fun _ => nowhere :=
    Marks.silent fun _ _ _ hlive hA => ⟨⟨rfl, fun _ => rfl, hlive⟩, ⟨rfl, hA⟩, id, fun _ => .inl⟩
  refine Noted.bind hread fun p => ?_
  have hnever (hp : ∀ t : PolicyThread, t.phase = p → ¬ AtRest t) (q : PolicyProg Unit) :
      Noted contract note (Knows (fun t => t.phase = p ∧ AtRest t) nowhere) q fun _ y => AtRest y.1.self :=
    fun y _ hk => absurd hk.own.2 (hp _ hk.own.1)
  cases p with
  | absent | exited => exact Noted.ret stable_rest fun y _ hk => hk.own.2
  | autoWan st =>
    refine hnever (fun t hphase hrest => ?_) _
    rw [AtRest, hphase] at hrest
    exact hrest
  | parallelScan st =>
    refine (loop_marks st).pre fun y _ hk => ⟨hk.live, ⟨hk.own.1, fun hst => ?_⟩, hk.clear⟩
    have hrest := hk.own.2
    rw [AtRest, hk.own.1] at hrest
    exact hrest hst
  | created policy =>
    cases policy with
    | parallelScan =>
      exact start_marks.mono (fun y _ hk => ⟨hk.live, hk.own.1, hk.clear⟩) fun _ y _ hk =>
        scans_atRest hk.own
    | fixedModeOnBootup | fixedMode | primaryPriorityOnBootup | primaryPriority | multiwan | autowan =>
      refine hnever (fun t hphase hrest => ?_) _
      rw [AtRest, hphase] at hrest
      exact nomatch hrest

end Sections

/-! ## Runs -/

theorem sound : pool.Sound protocol Created where
  start y hy := by
    refine ⟨hy.books, fun _ => ?_⟩
    show AtRest y.1.self
    rw [AtRest, hy.phase]
  stable _ := stable_rest
  body _ := Triple.pre tick_marks fun _ _ hk => ⟨hk.2, hk.1, fun _ => False.elim⟩
  env _ _ hi he := ⟨(hi.env he).1, fun _ => (hi.env he).2⟩

/-- In every run whose loops meet no other interface that is disabled with its mark set, the marks
of the group are those that are stored, and but for the middle of a selection one at most is set. -/
theorem marks_stored {c : Config Site Unit (PolicyView × Store)}
    (h : pool.Reach (fun l y => MarkedEnabled l y.1) Created c) : Books c.store := sound.reach h

/-! Two interfaces, one of them the last link; the other one is selected. -/

namespace Example

def edit (f : Shared → Shared) (h : ∀ inst s, link? inst (f s) = link? inst s) : pool.Move where
  edit y := ({ y.1 with shared := f y.1.shared }, y.2)
  allowed _ := .events ⟨rfl, fun i => .inl ⟨congrFun (h _ _) i, rfl⟩⟩
  thread := ()

def tick : pool.Move := edit id fun _ _ => rfl

/-- A tick after the selection timer has run out. -/
def later : pool.Move := edit (fun s => { s with now := s.now + 30 }) fun _ _ => rfl

/-- The first interface can be used, and the second was selected before. -/
def group (linkEnabled : Bool) : PolicyView × Store :=
  ({ shared := {
      ifaces := [{ virtIf := { status := .standby } },
        { selection := { enable := linkEnabled, activeLink := true } }]
      groups := [{ policy := .parallelScan }] }
     self := { phase := .created .parallelScan, ctrl := { groupInst := 1 } } }, fun i => i == 1)

theorem created (linkEnabled : Bool) : Created (group linkEnabled) := by
  refine ⟨rfl, fun i b hb => ?_, fun _ i j hi hj => ?_⟩
  · match i, hb with
    | 0, hb | 1, hb => exact Option.some.inj hb
  · have hone : ∀ i, links (group linkEnabled).1 i = some true → i = 1 := fun i hi => by
      match i, hi with
      | 1, _ => rfl
    rw [hone i hi, hone j hj]

end Example

open Example in
theorem marks_stored_selected : Books (pool.play [tick, later] (group true)) ∧
    links (pool.play [tick, later] (group true)).1 0 = some true ∧
      links (pool.play [tick, later] (group true)).1 1 = some false := by
  have hplays : pool.Plays (fun l y => MarkedEnabled l y.1) [tick, later] (group true) := by
    decide +kernel
  have hbooks := marks_stored (Pool.Reach.play (.start (created true)) hplays)
  rw [Pool.idle_store] at hbooks
  exact ⟨hbooks, by decide +kernel, by decide +kernel⟩

open Example in
/-- A disabled last link is only taken back in PSM, and keeps its mark when another is selected. -/
theorem marks_kept_disabled : ¬ ∀ c, pool.Reach (fun _ _ => True) Created c →
    (∀ i b, links c.store.1 i = some b → c.store.2 i = b) ∨
      (¬ selecting c.store.1.self → Single c.store.1) := by
  intro h
  have hplays : pool.Plays (fun _ _ => True) [tick, later] (group false) := by decide +kernel
  have hend := h _ (Pool.Reach.play (.start (created false)) hplays)
  rw [Pool.idle_store] at hend
  rcases hend with hagrees | hsingle
  · have hstored := hagrees 1 true (by decide +kernel)
    exact absurd hstored (by decide +kernel)
  · have hsame := hsingle (by decide +kernel) 0 1 (by decide +kernel) (by decide +kernel)
    exact nomatch hsame

end ActiveLinks
end WanManager
