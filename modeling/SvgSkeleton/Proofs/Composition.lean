import SvgSkeleton.Proofs.Names
import SvgSkeleton.Proofs.Picture
import SvgSkeleton.Store

/-!
Inclusion is compositional. A folder that can be included somewhere can be resolved by itself: its
chain is then shorter, so less is refused. What it becomes does not depend on its chain. Nor does it
depend on the variables around it: a text is filled in from those that are defined where it stands.
-/

namespace SvgSkeleton.Resolve

open Manifest (Tag Root Loaded)

variable {env : Setting} {chain chain' : IncludeChain} {folder path : String} {m : Loaded}

/-! ### Included and alone -/

lemma enter_of_subset (hsub : chain'.toList ⊆ chain.toList) (hd : chain'.depth ≤ chain.depth)
    {inner : IncludeChain} (h : enter env chain folder path = .ok (inner, m)) :
    ∃ inner', enter env chain' folder path = .ok (inner', m) ∧
      inner'.toList ⊆ inner.toList ∧ inner'.depth ≤ inner.depth := by
  obtain ⟨canonical, hj, hc, hm, hlim, hl, rfl⟩ := enter_eq_ok_iff.mp h
  have hm' : chain'.contains canonical = false := by
    rw [← Bool.not_eq_true, IncludeChain.contains_iff_mem] at hm ⊢
    exact fun hmem => hm (hsub hmem)
  refine ⟨chain'.push canonical, enter_eq_ok_iff.mpr
    ⟨canonical, hj, hc, hm', Nat.le_trans hd hlim, hl, rfl⟩, ?_, ?_⟩
  · exact List.cons_subset_cons canonical hsub
  · exact Nat.succ_le_succ hd

/-- What succeeds at the end of a chain succeeds at the end of a shorter one with fewer folders. -/
theorem outcome_of_subset {chain chain' : IncludeChain} {m : Loaded} {vars : Bindings}
    (hsub : chain'.toList ⊆ chain.toList) (hd : chain'.depth ≤ chain.depth)
    (h : Frame.outcome env ⟨chain, m, vars⟩ = .ok ()) :
    Frame.outcome env ⟨chain', m, vars⟩ = .ok () := by
  refine performAll_eq_ok_iff.mpr fun a ha => ?_
  have hok := performAll_eq_ok_iff.mp h a ha
  cases a with
  | folder path =>
    rw [Frame.perform_folder] at hok ⊢
    obtain ⟨⟨inner, nested⟩, he, hin⟩ := bind_eq_ok_iff.mp hok
    obtain ⟨inner', he', hsub', hd'⟩ := enter_of_subset hsub hd he
    have hlt := length_unvisited_lt he
    exact bind_eq_ok_iff.mpr ⟨_, he', outcome_of_subset hsub' hd' hin⟩
  | _ => exact hok
termination_by (unvisited env.store chain).length

lemma outcome_eq_ok_of_root {vars : Bindings} {scope : Scope} (hv : scope.flat = vars)
    {svg : Element} (h : (root (inside env chain m.folder) scope m.root).result = .ok svg) :
    Frame.outcome env ⟨chain, m, vars⟩ = .ok () := by
  have hd := done_root (s := inside env chain m.folder) scope m.root
  rw [h, hv] at hd
  exact hd.symm

lemma exists_document {top : String} (hc : env.store.canonicalFolder m.folder = .ok top)
    {globals : Bindings} (h : Frame.outcome env ⟨.root top, m, globals⟩ = .ok ()) :
    ∃ svg, (document env m globals).result = .ok svg := by
  have hd := Frame.done_document env m globals
  rw [hc] at hd
  exact done_eq_ok_iff.mp (hd.trans h)

/-- **What a folder becomes where it is included is what it becomes by itself**, up to the name of
the element and the name space, which a root that does not declare it gets in front. -/
theorem includeFolder_eq_document {stats : Stats} {g : Element}
    (h : ((includeFolder env chain folder path).start stats).1 = .ok g) :
    ∃ nested m svg, joinPath folder path = .ok nested ∧
      Manifest.load env.store env.compiler nested = .ok m ∧
      ((document env m []).start .zero).1 = .ok svg ∧
      g.name = "g" ∧ svg.name = "svg" ∧ svg.children = g.children ∧ svg.paired = g.paired ∧
      svg.attrs.toList =
        if "xmlns" ∈ m.root.attrs.map (·.1) then g.attrs.toList
        else ("xmlns", svgNamespace) :: g.attrs.toList := by
  rw [Run.start_fst, result_includeFolder] at h
  obtain ⟨⟨chain', m⟩, he, h⟩ := bind_eq_ok_iff.mp h
  obtain ⟨made, hr, h⟩ := bind_eq_ok_iff.mp h
  obtain rfl := Except.ok.inj h
  obtain ⟨top, hj, hc, -, -, hl, rfl⟩ := enter_eq_ok_iff.mp he
  have hok := outcome_eq_ok_of_root rfl hr
  have hsub : (IncludeChain.root top).toList ⊆ (chain.push top).toList :=
    List.cons_subset_cons top (List.nil_subset _)
  have hd : (IncludeChain.root top).depth ≤ (chain.push top).depth :=
    Nat.succ_le_succ (Nat.zero_le _)
  obtain ⟨svg, hsvg⟩ := exists_document hc (outcome_of_subset hsub hd hok)
  have hmade : RootBecomes env m [] made :=
    becomes_of_root (s := inside env (chain.push top) m.folder) rfl rfl
      (fun path g => becomes_of_includeFolder (chain.push top) m.folder path) rfl hr
  obtain ⟨made', hmade', rfl⟩ := becomes_of_document hsvg
  obtain rfl := hmade.unique hmade'
  refine ⟨m.folder, m, _, hj, hl, (Run.start_fst _ _).trans hsvg, rfl, ?_, rfl, rfl, ?_⟩
  · exact hmade.name_eq
  · rw [Attributes.toList_setDefaultFirst]
    simp only [hmade.mem_names]

/-- Files with a manifest in the folder `inner`. -/
def innerFiles : MemoryFiles :=
  .ofList [("inner/collagen.json", "\x7b\"attrs\":\x7b\"id\":\"a\"\x7d\x7d".toUTF8)]

theorem innerFiles_included_and_alone :
    ∃ g m svg, ((includeFolder ⟨innerFiles.toStore, .empty, none, 64⟩ (.root "") "" "inner").start
        .zero).1 = .ok g ∧ g.attrs.toList = [("id", "a")] ∧
      Manifest.load innerFiles.toStore none "inner" = .ok m ∧
      ((document ⟨innerFiles.toStore, .empty, none, 64⟩ m []).start .zero).1 = .ok svg ∧
      svg.attrs.toList = [("xmlns", svgNamespace), ("id", "a")] := by
  have hinc : ((includeFolder ⟨innerFiles.toStore, .empty, none, 64⟩ (.root "") ""
      "inner").result.map (·.attrs.toList)) = .ok [("id", "a")] := by
    rw [result_includeFolder]
    decide +kernel
  obtain ⟨g, hg, hattrs⟩ := map_eq_ok_iff.mp hinc
  obtain ⟨nested, m, svg, hj, hl, hsvg, -, -, -, -, hlist⟩ :=
    includeFolder_eq_document ((Run.start_fst _ .zero).trans hg)
  have hjoin : joinPath "" "inner" = .ok "inner" := by decide +kernel
  obtain rfl := Except.ok.inj (hjoin.symm.trans hj)
  have hnames : (Manifest.load innerFiles.toStore none "inner").map (·.root.attrs.map (·.1)) =
      .ok ["id"] := by decide +kernel
  obtain ⟨m', hl', hn⟩ := map_eq_ok_iff.mp hnames
  obtain rfl := Except.ok.inj (hl.symm.trans hl')
  refine ⟨g, m, svg, (Run.start_fst _ _).trans hg, hattrs, hl, hsvg, ?_⟩
  rw [hlist, hn, hattrs]
  rfl

/-! ### Scoping

A text is filled in from the variables of the picture, if its manifest is the one at the bottom, and
those of the tags around it there. A name that none of them has fails the run.
-/

/-- A run that comes to a text with an undefined name fails with that name. -/
lemma attempt_fill (env : Setting) (f : Frame) {vars : Bindings} (element : String)
    {text name : String} {before after : List Piece}
    (ht : Piece.ofText text.toList = before ++ .hole name :: after)
    (hbefore : ∀ n, .hole n ∈ before → ∃ p ∈ vars, p.1 = n) (hname : ∀ p ∈ vars, p.1 ≠ name) :
    f.attempt env (.fill vars element text) = .error (.unresolvedVariable name element) := by
  show perform (f.surroundings env) (.fill vars element text) = _
  rw [perform, Bindings.fillIn_eq_error ht hbefore hname]

/-- **Every text of a document is filled in from the last pairs of the variables that are defined
where it stands, and a name without a pair there fails the run.** -/
theorem document_lexical_scoping (env : Setting) (m : Loaded) (globals : Bindings)
    (stats : Stats) :
    (∀ svg, ((document env m globals).start stats).1 = .ok svg →
      ∃ made, RootBecomes env m globals made ∧
        svg = { made with attrs := made.attrs.setDefaultFirst "xmlns" svgNamespace }) ∧
    ∀ d f fs vars element text name before after, env.store.canonicalFolder m.folder = .ok d →
      Frame.Stack env ⟨.root d, m, globals⟩ (f :: fs) →
      f.ComesTo env (.fill vars element text) →
      Piece.ofText text.toList = before ++ .hole name :: after →
      (∀ n, .hole n ∈ before → ∃ p ∈ vars, p.1 = n) → (∀ p ∈ vars, p.1 ≠ name) →
      ((document env m globals).start stats).1 = .error (.unresolvedVariable name element) := by
  rw [Run.start_fst]
  refine ⟨fun svg h => becomes_of_document h, ?_⟩
  intro d f fs vars element text name before after hd hs hc ht hbefore hname
  have ha := attempt_fill env f element ht hbefore hname
  exact Frame.document_eq_error hd (Frame.outcome_of_stack hs (Frame.outcome_of_attempt hc ha))

/-- Files of which the folder `inner` uses a variable that it does not define. -/
def usingOuter : MemoryFiles :=
  .ofList [("inner/collagen.json", "\x7b\"attrs\":\x7b\"id\":\"\x7bx\x7d\"\x7d\x7d".toUTF8)]

/-- A manifest that defines the variable and includes that folder. -/
def definingOuter : Loaded :=
  ⟨⟨[], [("x", .text "1")], some [.container "inner"]⟩, "", "collagen.json", .plain, 0⟩

theorem outer_variable_not_defined_inside :
    ((document ⟨usingOuter.toStore, .empty, none, 64⟩ definingOuter []).start .zero).1 =
      .error (.unresolvedVariable "x" "svg") := by
  have hload : (Manifest.load usingOuter.toStore none "inner").map
      (fun m => (m.folder, m.root.attrs, m.root.vars)) =
        .ok ("inner", [("id", .text "\x7bx\x7d")], []) := by decide +kernel
  obtain ⟨m, hl, hm⟩ := map_eq_ok_iff.mp hload
  obtain ⟨hfolder, hattrs, hvars⟩ : m.folder = "inner" ∧ m.root.attrs = _ ∧ m.root.vars = _ := by
    simpa using hm
  have hd : usingOuter.toStore.canonicalFolder "" = .ok "" := by decide +kernel
  have hj : joinPath "" "inner" = .ok "inner" := by decide +kernel
  have hc : usingOuter.toStore.canonicalFolder "inner" = .ok "inner" := by decide +kernel
  have he : enter ⟨usingOuter.toStore, .empty, none, 64⟩ (.root "") "" "inner" =
      .ok ((IncludeChain.root "").push "inner", m) := by
    rw [enter_eq_ok_iff, hfolder]
    exact ⟨"inner", hj, hc, by decide, by decide, hl, rfl⟩
  refine (document_lexical_scoping _ _ _ _).2 "" ⟨_, m, []⟩ _ [] "svg" "\x7bx\x7d" "x" [] [] hd
    (.push .top ⟨rfl, "inner", ⟨[], [], rfl, by simp⟩, he⟩) ?_ (by decide) (by simp) (by simp)
  refine ⟨[], childrenActs [] m.root.children, ?_, by simp⟩
  show attrActs ([] ++ m.root.vars) "svg" m.root.attrs ++ _ = _
  rw [hattrs, hvars]
  rfl

end SvgSkeleton.Resolve
