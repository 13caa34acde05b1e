import Mathlib.Data.List.Forall2
import Mathlib.Logic.Relation
import SvgSkeleton.Proofs.Failures
import SvgSkeleton.Proofs.Spelling

/-!
The graph of folders and their includes. The chain of a frame names the folders of the frames
below it, and nothing else. So an include is refused as cyclic only on the way around a cycle, and a
picture without such a refusal has walked every way from its folder and met no cycle.
-/

namespace SvgSkeleton

open Relation (ReflTransGen TransGen)

/-- Nothing that is reached from the start leads back to itself. -/
def AcyclicFrom {α : Type} (r : α → α → Prop) (start : α) : Prop :=
  ∀ a, ReflTransGen r start a → ¬ TransGen r a a

namespace IncludeChain

@[simp] lemma toList_push (chain : IncludeChain) (folder : String) :
    (chain.push folder).toList = folder :: chain.toList := rfl

@[simp] lemma depth_push (chain : IncludeChain) (folder : String) :
    (chain.push folder).depth = chain.depth + 1 := rfl

lemma innermost_mem (chain : IncludeChain) : chain.innermost ∈ chain.toList :=
  List.mem_cons_self

lemma describe_push (chain : IncludeChain) (folder : String) :
    (chain.push folder).describe = shownFolders (chain.toList.reverse ++ [folder]) := by
  rw [describe, ← List.reverse_cons]
  rfl

end IncludeChain

lemma message_cyclicInclude (named : String) (chain : IncludeChain) :
    (Error.cyclicInclude named chain).message =
      "Cyclic include of " ++ Error.inQuotes (shownFolder named) ++ " (include chain: " ++
        shownFolders (chain.toList.reverse ++ [named]) ++ ")" := by
  rw [← IncludeChain.describe_push]
  unfold Error.message
  rfl

namespace Resolve

open Manifest (Tag Loaded)

/-- The manifest of the folder `d` includes the folder `e`, where both may be spelled in any way. -/
def Includes (s : Store) (compiler : Option Template.Compiler) (d e : String) : Prop :=
  ∃ folder m path nested, s.canonicalFolder folder = .ok d ∧
    Manifest.load s compiler folder = .ok m ∧ Tag.container path ∈ m.root.tags ∧
    joinPath folder path = .ok nested ∧ s.canonicalFolder nested = .ok e

variable {files : MemoryFiles}

/-- An include is refused as cyclic only if it leads to a folder of the chain. -/
lemma enter_eq_cyclicInclude {env : Setting} (hs : env.store = files.toStore)
    {chain chain' : IncludeChain} {folder path named : String}
    (h : enter env chain folder path = .error (.cyclicInclude named chain')) :
    chain' = chain ∧ joinPath folder path = .ok named ∧
      ∃ canonical, env.store.canonicalFolder named = .ok canonical ∧
        canonical ∈ chain.toList := by
  rcases bind_eq_error_iff.mp h with h | ⟨nested, hj, h⟩
  · exact absurd h ((failsAs_joinPath _ _).ne_cyclicInclude (by decide))
  rcases bind_eq_error_iff.mp h with h | ⟨canonical, hc, h⟩
  · rw [hs] at h
    exact absurd h ((failsAs_normalizePath _).ne_cyclicInclude (by decide))
  split at h
  · next hm =>
    obtain ⟨rfl, rfl⟩ := Error.cyclicInclude.inj (Except.error.inj h)
    exact ⟨rfl, hj, canonical, hc, IncludeChain.contains_iff_mem.mp hm⟩
  · split at h
    · cases h
    · rcases bind_eq_error_iff.mp h with h | ⟨m, -, h⟩
      · rw [hs] at h
        exact absurd h ((MemoryFiles.failsAs_load _ _).ne_cyclicInclude (by decide))
      · cases h

namespace Frame

variable {env : Setting} {top f g : Frame} {fs : List Frame}

/-- The frame stands in the last folder of its chain and has the manifest of that folder. -/
structure Placed (env : Setting) (f : Frame) : Prop where
  canonical : env.store.canonicalFolder f.manifest.folder = .ok f.chain.innermost
  loaded : Manifest.load env.store env.compiler f.manifest.folder = .ok f.manifest

lemma placed_of_opens (ho : f.Opens env g) : g.Placed env := by
  obtain ⟨-, path, -, he⟩ := ho
  obtain ⟨canonical, -, hc, -, -, hl, hp⟩ := enter_eq_ok_iff.mp he
  have hin : g.chain.innermost = canonical := congrArg IncludeChain.innermost hp
  exact ⟨by rw [hin]; exact hc, hl⟩

lemma mem_tags_of_comesTo {path : String} (h : f.ComesTo env (.folder path)) :
    Tag.container path ∈ f.manifest.root.tags :=
  folder_mem_rootActs_iff.mp h.mem

/-- A frame opens frames only off its chain. -/
lemma chain_of_opens (ho : f.Opens env g) :
    g.chain = f.chain.push g.chain.innermost ∧ g.chain.innermost ∉ f.chain.toList := by
  obtain ⟨-, path, -, he⟩ := ho
  obtain ⟨canonical, -, -, hm, -, -, hp⟩ := enter_eq_ok_iff.mp he
  have hin : g.chain.innermost = canonical := congrArg IncludeChain.innermost hp
  rw [hin, ← hp, ← IncludeChain.contains_iff_mem, hm]
  exact ⟨rfl, Bool.false_ne_true⟩

/-- It opens them along the graph. -/
lemma includes_of_opens (hf : f.Placed env) (ho : f.Opens env g) :
    Includes env.store env.compiler f.chain.innermost g.chain.innermost ∧
      g.chain = f.chain.push g.chain.innermost ∧ g.chain.innermost ∉ f.chain.toList := by
  have hg := placed_of_opens ho
  refine ⟨?_, chain_of_opens ho⟩
  obtain ⟨-, path, hc, he⟩ := ho
  obtain ⟨canonical, hj, -⟩ := enter_eq_ok_iff.mp he
  exact ⟨_, _, path, _, hf.canonical, hf.loaded, mem_tags_of_comesTo hc, hj, hg.canonical⟩

/-! ### The frames of a run that fails -/

lemma placed_of_stack (ht : top.Placed env) (hs : Stack env top (f :: fs)) : f.Placed env := by
  cases hs with
  | top => exact ht
  | push _ ho => exact placed_of_opens ho

lemma all_placed (ht : top.Placed env) (hs : Stack env top fs) : ∀ g ∈ fs, g.Placed env := by
  induction hs with
  | top => simpa using ht
  | push _ ho ih => exact List.forall_mem_cons.mpr ⟨placed_of_opens ho, ih⟩

/-- The chain of a frame names the folders of the frames below it. -/
lemma toList_chain (ht : top.Placed env) (hr : top.chain.around = [])
    (hs : Stack env top (f :: fs)) :
    f.chain.toList = (f :: fs).map fun g => g.chain.innermost := by
  induction hs using Stack.head_induction with
  | base => simp [IncludeChain.toList, hr]
  | push hs ho ih =>
    rw [(includes_of_opens (placed_of_stack ht hs) ho).2.1, IncludeChain.toList_push, ih]
    rfl

/-- Each folder of a chain is reached from the top one and reaches the last one. -/
lemma reaches_of_mem_chain (ht : top.Placed env) (hr : top.chain.around = [])
    (hs : Stack env top (f :: fs)) : ∀ d ∈ f.chain.toList,
      ReflTransGen (Includes env.store env.compiler) top.chain.innermost d ∧
        ReflTransGen (Includes env.store env.compiler) d f.chain.innermost := by
  induction hs using Stack.head_induction with
  | base => simp [IncludeChain.toList, hr, ReflTransGen.refl]
  | push hs ho ih =>
    obtain ⟨hi, hp, -⟩ := includes_of_opens (placed_of_stack ht hs) ho
    rw [hp, IncludeChain.toList_push]
    refine List.forall_mem_cons.mpr ⟨⟨?_, .refl⟩, fun d hd => ⟨(ih d hd).1, (ih d hd).2.tail hi⟩⟩
    exact (ih _ (IncludeChain.innermost_mem _)).1.tail hi

lemma attempt_eq_perform {a : Act} (ha : ∀ path, a ≠ .folder path) :
    f.attempt env a = perform (f.surroundings env) a := by
  cases a with
  | folder path => exact absurd rfl (ha path)
  | _ => rfl

/-- Where a frame fails with a cyclic include, a frame above it comes to that include. -/
lemma exists_stack_of_cyclicInclude (hs : env.store = files.toStore) {named : String}
    {chain : IncludeChain} (h : top.outcome env = .error (.cyclicInclude named chain)) :
    ∃ f fs path canonical, Stack env top (f :: fs) ∧ f.ComesTo env (.folder path) ∧
      chain = f.chain ∧ joinPath f.manifest.folder path = .ok named ∧
      env.store.canonicalFolder named = .ok canonical ∧ canonical ∈ f.chain.toList := by
  obtain ⟨f, fs, a, hst, hc, ha⟩ := outcome_eq_error_iff_exists_stack.mp h
  by_cases hf : ∃ path, a = .folder path
  · obtain ⟨path, rfl⟩ := hf
    obtain ⟨hch, hj, canonical, hcan, hmem⟩ :=
      enter_eq_cyclicInclude hs (done_eq_error_iff.mp ha)
    exact ⟨f, fs, path, canonical, hst, hc, hch, hj, hcan, hmem⟩
  · have hne : ∀ path, a ≠ .folder path := fun path h => hf ⟨path, h⟩
    rw [attempt_eq_perform hne] at ha
    have hfs : (f.surroundings env).store = files.toStore := hs
    exact absurd ha ((failsAs_perform hfs hne).ne_cyclicInclude (by decide))

/-! ### The frames of a run that succeeds -/

lemma comesTo_of_ok {a : Act} (hok : f.outcome env = .ok ()) (ha : a ∈ f.acts) :
    f.ComesTo env a := by
  obtain ⟨before, after, h⟩ := List.append_of_mem ha
  refine ⟨before, after, h, fun b hb => performAll_eq_ok_iff.mp hok b ?_⟩
  rw [h]
  exact List.mem_append_left _ hb

/-- A folder has one manifest, however it is spelled, and so paths lead from it to one place. -/
lemma mem_tags_of_includes (hs : env.store = files.toStore) (hf : f.Placed env) {e : String}
    (hi : Includes env.store env.compiler f.chain.innermost e) :
    ∃ path nested, Tag.container path ∈ f.manifest.root.tags ∧
      joinPath f.manifest.folder path = .ok nested ∧ env.store.canonicalFolder nested = .ok e := by
  obtain ⟨folder, m, path, nested, hd, hl, ht, hj, he⟩ := hi
  obtain ⟨hc, hfl⟩ := hf
  refine ⟨path, nested, ?_, ?_, he⟩
  · rw [hs] at hd hl hc hfl
    have h := (MemoryFiles.load_normal hl hd).symm.trans (MemoryFiles.load_normal hfl hc)
    have hroot : m.root = f.manifest.root := (Loaded.mk.inj (Except.ok.inj h)).1
    rwa [← hroot]
  · rw [hs] at hd hl hc hfl
    have hdrive := MemoryFiles.hasDrive_of_load hfl hc
    rw [MemoryFiles.joinPath_eq hc hdrive, ← MemoryFiles.joinPath_eq hd hdrive, hj]

/-- A frame that succeeds opens a frame for each of its containers, and that one succeeds too. -/
lemma exists_opens_of_container (hok : f.outcome env = .ok ()) {path : String}
    (ht : Tag.container path ∈ f.manifest.root.tags) :
    ∃ g, f.Opens env g ∧ enter env f.chain f.manifest.folder path = .ok (g.chain, g.manifest) ∧
      g.outcome env = .ok () := by
  have ha : .folder path ∈ f.acts := folder_mem_rootActs_iff.mpr ht
  have hp := performAll_eq_ok_iff.mp hok _ ha
  change perform (f.surroundings env) (.folder path) = _ at hp
  rw [perform_folder] at hp
  obtain ⟨⟨chain, m⟩, hen, hg⟩ := bind_eq_ok_iff.mp hp
  exact ⟨⟨chain, m, []⟩, ⟨rfl, path, comesTo_of_ok hok ha, hen⟩, hen, hg⟩

/-- So it does for every include of its folder. -/
lemma exists_opens (hs : env.store = files.toStore) (hf : f.Placed env)
    (hok : f.outcome env = .ok ()) {e : String}
    (hi : Includes env.store env.compiler f.chain.innermost e) :
    ∃ g, f.Opens env g ∧ g.chain.innermost = e ∧ g.outcome env = .ok () := by
  obtain ⟨path, nested, ht, hj, he⟩ := mem_tags_of_includes hs hf hi
  obtain ⟨g, ho, hen, hg⟩ := exists_opens_of_container hok ht
  refine ⟨g, ho, ?_, hg⟩
  obtain ⟨canonical, hj', hc, -, -, -, hp⟩ := enter_eq_ok_iff.mp hen
  obtain rfl := Except.ok.inj (hj.symm.trans hj')
  rw [hp]
  exact Except.ok.inj (hc.symm.trans he)

/-- A frame that succeeds has a successful frame above it for all that its folder leads to, and
none of that is on its chain. -/
lemma exists_frame_of_transGen (hs : env.store = files.toStore) (hf : f.Placed env)
    (hok : f.outcome env = .ok ()) {e : String}
    (h : TransGen (Includes env.store env.compiler) f.chain.innermost e) :
    ∃ g : Frame, g.Placed env ∧ g.outcome env = .ok () ∧ g.chain.innermost = e ∧
      e ∉ f.chain.toList ∧ f.chain.toList ⊆ g.chain.toList := by
  induction h with
  | single hi =>
    obtain ⟨g, ho, rfl, hg⟩ := exists_opens hs hf hok hi
    obtain ⟨-, hp, hn⟩ := includes_of_opens hf ho
    refine ⟨g, placed_of_opens ho, hg, rfl, hn, ?_⟩
    rw [hp]
    exact List.subset_cons_self ..
  | tail _ hi ih =>
    obtain ⟨b, hb, hbok, rfl, -, hsub⟩ := ih
    obtain ⟨g, ho, rfl, hg⟩ := exists_opens hs hb hbok hi
    obtain ⟨-, hp, hn⟩ := includes_of_opens hb ho
    refine ⟨g, placed_of_opens ho, hg, rfl, fun hmem => hn (hsub hmem), ?_⟩
    rw [hp]
    exact List.subset_cons_of_subset _ hsub

/-- A frame that succeeds leads to no cycle. -/
theorem acyclicFrom_of_ok (hs : env.store = files.toStore) (hf : f.Placed env)
    (hok : f.outcome env = .ok ()) :
    AcyclicFrom (Includes env.store env.compiler) f.chain.innermost := by
  intro a ha hcycle
  have hat : ∃ g : Frame, g.Placed env ∧ g.outcome env = .ok () ∧ g.chain.innermost = a := by
    rcases Relation.reflTransGen_iff_eq_or_transGen.mp ha with rfl | h
    · exact ⟨f, hf, hok, rfl⟩
    · obtain ⟨g, hg, hgok, hga, -⟩ := exists_frame_of_transGen hs hf hok h
      exact ⟨g, hg, hgok, hga⟩
  obtain ⟨g, hg, hgok, rfl⟩ := hat
  obtain ⟨-, -, -, -, hn, -⟩ := exists_frame_of_transGen hs hg hgok hcycle
  exact hn (IncludeChain.innermost_mem _)

end Frame

open SvgSkeleton.Resolve.Frame (Placed Stack)

/-- **A picture is made only if no cycle is reached, and a cyclic include is reported only on the
way around a cycle, with the folders that are being resolved.** -/
theorem cyclic_includes_are_refused {env : Setting} (hs : env.store = files.toStore)
    {folder : String} {m : Loaded} (hm : Manifest.load env.store env.compiler folder = .ok m)
    (globals : Bindings) (stats : Stats) :
    (∀ svg, ((document env m globals).start stats).1 = .ok svg →
      ∃ d, env.store.canonicalFolder folder = .ok d ∧
        AcyclicFrom (Includes env.store env.compiler) d) ∧
    (∀ named chain,
      ((document env m globals).start stats).1 = .error (.cyclicInclude named chain) →
      ∃ d f fs path dirs canonical, env.store.canonicalFolder folder = .ok d ∧
        Stack env ⟨.root d, m, globals⟩ (f :: fs) ∧ f.ComesTo env (.folder path) ∧
        joinPath f.manifest.folder path = .ok named ∧
        List.Forall₂ (fun g dir => env.store.canonicalFolder g.manifest.folder = .ok dir)
          (f :: fs) dirs ∧
        env.store.canonicalFolder named = .ok canonical ∧ canonical ∈ dirs ∧
        chain.toList = dirs ∧
        (Error.cyclicInclude named chain).message =
          "Cyclic include of " ++ Error.inQuotes (shownFolder named) ++ " (include chain: " ++
            shownFolders (dirs.reverse ++ [named]) ++ ")") ∧
    ∀ d, env.store.canonicalFolder folder = .ok d →
      AcyclicFrom (Includes env.store env.compiler) d →
      ∀ named chain,
        ((document env m globals).start stats).1 ≠ .error (.cyclicInclude named chain) := by
  obtain rfl := folder_of_load hm
  rw [Run.start_fst]
  have hdone := Frame.done_document env m globals
  have hplaced {d : String} (hd : env.store.canonicalFolder m.folder = .ok d) :
      Placed env ⟨.root d, m, globals⟩ := ⟨hd, hm⟩
  have hfail {named : String} {chain : IncludeChain}
      (h : (document env m globals).result = .error (.cyclicInclude named chain)) :
      ∃ d, env.store.canonicalFolder m.folder = .ok d ∧
        Frame.outcome env ⟨.root d, m, globals⟩ = .error (.cyclicInclude named chain) := by
    rw [h, done_error] at hdone
    rcases bind_eq_error_iff.mp hdone.symm with h | h
    · rw [hs] at h
      exact absurd h ((failsAs_normalizePath _).ne_cyclicInclude (by decide))
    · exact h
  refine ⟨fun svg h => ?_, fun named chain h => ?_, fun d hd hac named chain h => ?_⟩
  · rw [h, done_ok] at hdone
    obtain ⟨d, hd, hok⟩ := bind_eq_ok_iff.mp hdone.symm
    exact ⟨d, hd, Frame.acyclicFrom_of_ok hs (hplaced hd) hok⟩
  · obtain ⟨d, hd, h⟩ := hfail h
    obtain ⟨f, fs, path, canonical, hst, hc, rfl, hj, hcan, hmem⟩ :=
      Frame.exists_stack_of_cyclicInclude hs h
    have hchain := Frame.toList_chain (hplaced hd) rfl hst
    refine ⟨d, f, fs, path, f.chain.toList, canonical, hd, hst, hc, hj, ?_, hcan, hmem, rfl, ?_⟩
    · rw [hchain, List.forall₂_map_right_iff, List.forall₂_same]
      exact fun g hg => (Frame.all_placed (hplaced hd) hst g hg).canonical
    · exact message_cyclicInclude named f.chain
  · obtain ⟨d', hd', h⟩ := hfail h
    obtain rfl := Except.ok.inj (hd.symm.trans hd')
    obtain ⟨f, fs, path, canonical, hst, hc, rfl, hj, hcan, hmem⟩ :=
      Frame.exists_stack_of_cyclicInclude hs h
    obtain ⟨hto, hfrom⟩ := Frame.reaches_of_mem_chain (hplaced hd) rfl hst _ hmem
    have hf := Frame.placed_of_stack (hplaced hd) hst
    have hi : Includes env.store env.compiler f.chain.innermost canonical :=
      ⟨_, _, path, named, hf.canonical, hf.loaded, Frame.mem_tags_of_comesTo hc, hj, hcan⟩
    exact hac canonical hto (.tail' hfrom hi)

/-- Files whose only manifest includes its own folder. -/
def selfIncluding : MemoryFiles :=
  .ofList [("collagen.json", "\x7b\"children\":[\x7b\"clgn_path\":\".\"\x7d]\x7d".toUTF8)]

theorem no_picture_of_selfIncluding :
    ∃ m, Manifest.load selfIncluding.toStore none "" = .ok m ∧
      ∀ fonts maxDepth globals stats svg,
        ((document ⟨selfIncluding.toStore, fonts, none, maxDepth⟩ m globals).start stats).1 ≠
          .ok svg := by
  have hpaths : (Manifest.load selfIncluding.toStore none "").map (Manifest.paths ·.root.tags) =
      .ok ["."] := by decide +kernel
  obtain ⟨m, hm, hpaths⟩ := map_eq_ok_iff.mp hpaths
  have hmem : Tag.container "." ∈ m.root.tags := by
    rw [Manifest.container_mem_iff, hpaths]
    exact List.mem_singleton_self _
  have hcan : selfIncluding.toStore.canonicalFolder "" = .ok "" := by decide +kernel
  have hj : joinPath "" "." = .ok "" := by decide +kernel
  refine ⟨m, hm, fun fonts maxDepth globals stats svg h => ?_⟩
  have hs : (⟨selfIncluding.toStore, fonts, none, maxDepth⟩ : Setting).store =
      selfIncluding.toStore := rfl
  obtain ⟨d, hd, hac⟩ := (cyclic_includes_are_refused hs hm globals stats).1 svg h
  obtain rfl := Except.ok.inj (hcan.symm.trans hd)
  exact hac "" .refl (.single ⟨"", m, ".", "", hcan, hm, hmem, hj, hcan⟩)

end Resolve
end SvgSkeleton
