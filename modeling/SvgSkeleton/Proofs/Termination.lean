import Mathlib.Data.List.Dedup
import Mathlib.Data.List.Perm.Subperm
import SvgSkeleton.Markup.Element
import SvgSkeleton.Proofs.IncludeGraph

/-!
Why a run ends. A folder is entered only if it holds a manifest and is not on the chain, so with
files in memory no more folders than hold manifests are ever entered inside one another. A run in
which only so many are, and anything else happens further in, is therefore the same run: what is
further in is never reached. The limit on the depth of inclusion has no part in this.
-/

namespace SvgSkeleton

namespace MemoryFiles

variable {files : MemoryFiles}

/-- The folders that hold a manifest file, each once. -/
def manifestFolders (files : MemoryFiles) : List String :=
  ((files.keys.filter fun key => String.ofList (Path.fileName key.toList) ∈ manifestNames).map
    Path.parent).dedup

lemma mem_manifestFolders_iff {folder : String} :
    folder ∈ files.manifestFolders ↔ ∃ key ∈ files.keys,
      String.ofList (Path.fileName key.toList) ∈ manifestNames ∧ Path.parent key = folder := by
  simp [manifestFolders, and_assoc]

/-- A folder whose manifest can be loaded holds a manifest file. -/
lemma mem_manifestFolders_of_load {compiler : Option Template.Compiler}
    {folder canonical : String} {m : Manifest.Loaded}
    (h : Manifest.load files.toStore compiler folder = .ok m)
    (hc : files.toStore.canonicalFolder folder = .ok canonical) :
    canonical ∈ files.manifestFolders := by
  obtain ⟨found, hl⟩ := Manifest.exists_locate_of_load h
  obtain ⟨hj, hf⟩ := Manifest.exists_file_of_locate hl
  have hn := found.2.fileName_mem
  have hord := ordinary_manifestName hn
  obtain ⟨names, rfl, hk⟩ := exists_key hn hj hf hc
  refine mem_manifestFolders_iff.mpr ⟨_, hk, ?_, Path.parent_ofSegments hord⟩
  rwa [String.toList_ofList, Path.fileName_ofSegments hord, String.ofList_toList]

end MemoryFiles

namespace Resolve

open Manifest (Loaded)

/-- Including a folder where only so many folders are entered inside one another; an include
further in is any other run. -/
def includeWithin (env : Setting) (below : IncludeChain → String → String → Run Element) :
    Nat → IncludeChain → String → String → Run Element
  | 0, chain, folder, path => below chain folder path
  | n + 1, chain, folder, path => do
    let (chain', m) ← Run.ofOutcome (enter env chain folder path)
    let svg ← root ⟨env.store, env.fonts, m.folder, includeWithin env below n chain' m.folder⟩ []
      m.root
    Run.count .ofInclude
    return { svg with name := "g" }

/-- The picture of a manifest where only so many folders are entered inside one another. -/
def documentWithin (env : Setting) (below : IncludeChain → String → String → Run Element)
    (n : Nat) (m : Loaded) (globals : Bindings) : Run Element := do
  let folder ← Run.ofOutcome (env.store.canonicalFolder m.folder)
  let svg ← root
    ⟨env.store, env.fonts, m.folder, includeWithin env below n (.root folder) m.folder⟩ [globals]
    m.root
  return { svg with attrs := svg.attrs.setDefaultFirst "xmlns" svgNamespace }

section

variable {env : Setting} {below : IncludeChain → String → String → Run Element}
  {folders : List String}

/-- By induction on the number of levels. Every level puts a folder of the list on the chain, and
one level more than there are folders left is enough: on the last one nothing can be entered. -/
lemma includeWithin_eq
    (hall : ∀ {folder m canonical}, Manifest.load env.store env.compiler folder = .ok m →
      env.store.canonicalFolder folder = .ok canonical → canonical ∈ folders)
    {n : Nat} {chain : IncludeChain}
    (hn : (folders.filter (!chain.contains ·)).length < n) :
    includeWithin env below n chain = includeFolder env chain := by
  induction n generalizing chain with
  | zero => omega
  | succ n ih =>
    funext folder path
    rw [includeFolder_eq, includeWithin]
    cases he : enter env chain folder path with
    | error e => rfl
    | ok p =>
      obtain ⟨chain', m⟩ := p
      obtain ⟨canonical, -, hc, hm, -, hl, rfl⟩ := enter_eq_ok_iff.mp he
      have hlt := length_filter_push_lt (hall hl hc) hm
      show (root ⟨_, _, _, includeWithin env below n (chain.push canonical) m.folder⟩ [] m.root >>=
        _ : Run Element) = _
      rw [ih (by omega)]
      rfl

lemma documentWithin_eq
    (hall : ∀ {folder m canonical}, Manifest.load env.store env.compiler folder = .ok m →
      env.store.canonicalFolder folder = .ok canonical → canonical ∈ folders)
    {n : Nat} (hn : folders.length < n) (m : Loaded) (globals : Bindings) :
    documentWithin env below n m globals = document env m globals := by
  unfold documentWithin document
  congr 1
  funext folder
  rw [includeWithin_eq hall (Nat.lt_of_le_of_lt (List.length_filter_le ..) hn)]

end

section

variable {files : MemoryFiles} {env : Setting} {top f : Frame} {fs : List Frame}

/-- With files in memory the levels need only outnumber the folders that hold manifest files. -/
lemma documentWithin_eq_of_files (hs : env.store = files.toStore)
    {below : IncludeChain → String → String → Run Element} {n : Nat}
    (hn : files.manifestFolders.length < n) (m : Loaded) (globals : Bindings) :
    documentWithin env below n m globals = document env m globals := by
  refine documentWithin_eq (fun hl hc => ?_) hn m globals
  rw [hs] at hl hc
  exact MemoryFiles.mem_manifestFolders_of_load hl hc

/-- Inside the folders of the bottom frame, every frame puts a folder with a manifest file on its
chain that is not there yet. -/
lemma Frame.chain_of_stack (hs : env.store = files.toStore) (hn : top.chain.toList.Nodup)
    (hst : Stack env top (f :: fs)) :
    f.chain.toList.Nodup ∧ ∃ inner, f.chain.toList = inner ++ top.chain.toList ∧
      inner ⊆ files.manifestFolders := by
  induction hst using Stack.head_induction with
  | base => exact ⟨hn, [], rfl, List.nil_subset _⟩
  | push _ ho ih =>
    obtain ⟨hnodup, inner, hinner, hsub⟩ := ih
    obtain ⟨hp, hnot⟩ := chain_of_opens ho
    obtain ⟨hc, hl⟩ := placed_of_opens ho
    rw [hs] at hc hl
    rw [hp, IncludeChain.toList_push]
    have hmem := MemoryFiles.mem_manifestFolders_of_load hl hc
    exact ⟨hnodup.cons hnot, _ :: inner, by rw [hinner, List.cons_append],
      List.cons_subset.mpr ⟨hmem, hsub⟩⟩

end

open SvgSkeleton.Resolve.Frame (Stack)

/-- **A run with files in memory ends, whatever the limit is**: no more folders are ever entered
inside one another than hold manifest files. The folders of a chain are different ones, and each
but the last one holds a manifest file. -/
theorem includes_end {files : MemoryFiles} {env : Setting} (hs : env.store = files.toStore)
    (m : Loaded) (globals : Bindings) :
    (∀ below n, files.manifestFolders.length < n →
      documentWithin env below n m globals = document env m globals) ∧
    ∀ d, env.store.canonicalFolder m.folder = .ok d →
      ∀ f fs, Stack env ⟨.root d, m, globals⟩ (f :: fs) →
        f.chain.toList.Nodup ∧
        (∃ inner, f.chain.toList = inner ++ [d] ∧ inner ⊆ files.manifestFolders) ∧
        f.chain.depth ≤ 1 + files.manifestFolders.length := by
  refine ⟨fun below n hn => documentWithin_eq_of_files hs hn m globals, fun d hd f fs hst => ?_⟩
  · have htop : (Frame.chain ⟨.root d, m, globals⟩).toList.Nodup := List.nodup_singleton d
    obtain ⟨hnodup, inner, hinner, hsub⟩ := Frame.chain_of_stack hs htop hst
    refine ⟨hnodup, ⟨inner, hinner, hsub⟩, ?_⟩
    have hdistinct : inner.Nodup := (hinner ▸ hnodup).of_append_left
    have hlen := (List.subperm_of_subset hdistinct hsub).length_le
    rw [IncludeChain.depth, hinner, List.length_append]
    show inner.length + 1 ≤ _
    omega

/-- Files with a manifest that includes `a`, which includes `a/b`. -/
def nestedFiles : MemoryFiles :=
  .ofList [("collagen.json", "\x7b\"children\":[\x7b\"clgn_path\":\"a\"\x7d]\x7d".toUTF8),
    ("a/collagen.json", "\x7b\"children\":[\x7b\"clgn_path\":\"b\"\x7d]\x7d".toUTF8),
    ("a/b/collagen.json", "\x7b\"attrs\":\x7b\"id\":\"x\"\x7d\x7d".toUTF8)]

/-- A setting with these files and a limit. -/
def nestedSetting (maxDepth : Nat) : Setting := ⟨nestedFiles.toStore, .empty, none, maxDepth⟩

/-- A frame that succeeds with `path` for its only container opens the frame that is entered. -/
lemma Frame.exists_opens_of_paths {env : Setting} {f : Frame} {chain chain' : IncludeChain}
    {folder folder' path : String} {inside : List String} (hok : f.outcome env = .ok ())
    (hpaths : Manifest.paths f.manifest.root.tags = [path]) (hchain : f.chain = chain)
    (hfolder : f.manifest.folder = folder)
    (he : (enter env chain folder path).map (fun p =>
      (p.1, p.2.folder, Manifest.paths p.2.root.tags)) = .ok (chain', folder', inside)) :
    ∃ g : Frame, f.Opens env g ∧ g.outcome env = .ok () ∧ g.chain = chain' ∧
      g.manifest.folder = folder' ∧ Manifest.paths g.manifest.root.tags = inside := by
  have ht : Manifest.Tag.container path ∈ f.manifest.root.tags := by
    rw [Manifest.container_mem_iff, hpaths]
    exact List.mem_singleton_self _
  obtain ⟨g, ho, hen, hg⟩ := exists_opens_of_container hok ht
  rw [← hchain, ← hfolder, hen] at he
  obtain ⟨hc, hrest⟩ := Prod.mk.inj (Except.ok.inj he)
  obtain ⟨hf, hinside⟩ := Prod.mk.inj hrest
  exact ⟨g, ho, hg, hc, hf, hinside⟩

/-- The run of these files gets to be inside all three folders. -/
lemma exists_stack_nestedFiles {m : Loaded} {svg : Element}
    (hm : Manifest.load nestedFiles.toStore none "" = .ok m)
    (hpaths : Manifest.paths m.root.tags = ["a"])
    (hcan : (nestedSetting (UInt64.size - 1)).store.canonicalFolder m.folder = .ok "")
    (hsvg : (document (nestedSetting (UInt64.size - 1)) m []).result = .ok svg) :
    ∃ f fs, Stack (nestedSetting (UInt64.size - 1)) ⟨.root "", m, []⟩ (f :: fs) ∧
      f.chain.toList = ["a/b", "a", ""] := by
  have htop : Frame.outcome (nestedSetting (UInt64.size - 1)) ⟨.root "", m, []⟩ = .ok () := by
    have hdone := Frame.done_document (nestedSetting (UInt64.size - 1)) m []
    rw [hsvg, hcan] at hdone
    exact hdone.symm
  have hinner : (enter (nestedSetting (UInt64.size - 1)) (.root "") "" "a").map (fun p =>
      (p.1, p.2.folder, Manifest.paths p.2.root.tags)) = .ok (⟨"a", [""]⟩, "a", ["b"]) := by
    decide +kernel
  have hinnermost : (enter (nestedSetting (UInt64.size - 1)) ⟨"a", [""]⟩ "a" "b").map (fun p =>
      (p.1, p.2.folder, Manifest.paths p.2.root.tags)) =
        .ok (⟨"a/b", ["a", ""]⟩, "a/b", []) := by
    decide +kernel
  obtain ⟨g, hg, hgok, hgchain, hgfolder, hgpaths⟩ :=
    Frame.exists_opens_of_paths htop hpaths rfl (folder_of_load hm) hinner
  obtain ⟨f, hf, -, hfchain, -⟩ :=
    Frame.exists_opens_of_paths hgok hgpaths hgchain hgfolder hinnermost
  exact ⟨f, _, .push (.push .top hg) hf, congrArg IncludeChain.toList hfchain⟩

theorem nestedFiles_end :
    ∃ m svg f fs, Manifest.load nestedFiles.toStore none "" = .ok m ∧
      nestedFiles.manifestFolders.length = 3 ∧
      ((document (nestedSetting (UInt64.size - 1)) m []).start .zero).1 = .ok svg ∧
      Markup.printElement svg =
        "<svg xmlns=\"http://www.w3.org/2000/svg\"><g><g id=\"x\"/></g></svg>" ∧
      Stack (nestedSetting (UInt64.size - 1)) ⟨.root "", m, []⟩ (f :: fs) ∧
      f.chain.toList = ["a/b", "a", ""] ∧ f.chain.toList.Nodup ∧ f.chain.depth ≤ 1 + 3 := by
  have hlen : nestedFiles.manifestFolders.length = 3 := by decide +kernel
  have hrun : (Manifest.load nestedFiles.toStore none "").map (fun m =>
      (Manifest.paths m.root.tags, ((documentWithin (nestedSetting (UInt64.size - 1))
        (fun _ _ _ => throw (.assetNotFound "")) 4 m []).start .zero).1.map Markup.printElement)) =
      .ok (["a"],
        .ok "<svg xmlns=\"http://www.w3.org/2000/svg\"><g><g id=\"x\"/></g></svg>") := by
    decide +kernel
  obtain ⟨m, hm, hrun⟩ := map_eq_ok_iff.mp hrun
  obtain ⟨hpaths, hrun⟩ := Prod.mk.inj hrun
  have hs : (nestedSetting (UInt64.size - 1)).store = nestedFiles.toStore := rfl
  obtain ⟨hwithin, hstack⟩ := includes_end hs m []
  rw [hwithin _ 4 (by omega)] at hrun
  obtain ⟨svg, hsvg, hprint⟩ := map_eq_ok_iff.mp hrun
  have hcan : (nestedSetting (UInt64.size - 1)).store.canonicalFolder m.folder = .ok "" := by
    rw [folder_of_load hm]
    decide +kernel
  obtain ⟨f, fs, hst, hchain⟩ :=
    exists_stack_nestedFiles hm hpaths hcan ((Run.start_fst _ _).symm.trans hsvg)
  obtain ⟨hnodup, -, hdepth⟩ := hstack "" hcan f fs hst
  exact ⟨m, svg, f, fs, hm, hlen, hsvg, hprint, hst, hchain, hnodup, hlen ▸ hdepth⟩

end Resolve
end SvgSkeleton
