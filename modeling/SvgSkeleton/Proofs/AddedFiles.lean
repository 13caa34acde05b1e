import SvgSkeleton.Proofs.Snapshot
import SvgSkeleton.Proofs.Termination

/-!
More files beside those of a skeleton. A picture comes of the files that are found. The only file
whose absence it can depend on is the template of a folder, which would win over the plain manifest;
so files that are new and are no templates leave the picture as it is.
-/

namespace SvgSkeleton

namespace Path

/-- A name taken from a folder is the last name of the path. -/
lemma fileName_of_join {folder name path key : String} (hn : Ordinary name.toList)
    (hj : join folder name = .ok path) (hk : normalize path = .ok key) :
    fileName key.toList = name.toList := by
  obtain ⟨names, hr⟩ := exists_resolve_of_join hj
  obtain rfl := join_name hn hr hj
  obtain ⟨got, hg, rfl⟩ := normalize_eq_ok hk
  have hord : ∀ s ∈ names ++ [name.toList], Ordinary s := by
    intro s hs
    rcases List.mem_append.mp hs with hs | hs
    · exact ordinary_of_resolve hr s hs
    · exact List.mem_singleton.mp hs ▸ hn
  rw [String.toList_ofList] at hg
  obtain rfl := resolve_ofSegments hord hg
  rw [String.toList_ofList, fileName_ofSegments hn]

end Path

/-! ### Putting files in -/

namespace MemoryFiles

variable {files more : MemoryFiles} {added : List (String × ByteArray)} {path key : String}
  {content : ByteArray}

/-- Put in files, one after the other. -/
def insertAll (files : MemoryFiles) (added : List (String × ByteArray)) : Outcome MemoryFiles :=
  added.foldlM (fun files f => files.insert f.1 f.2) files

lemma insert_eq_ok (h : files.insert path content = .ok more) :
    ∃ key, Path.normalize path = .ok key ∧ more = Catalog.insert files key content := by
  obtain ⟨key, hk, h⟩ := bind_eq_ok_iff.mp h
  split at h
  · cases h
  · exact ⟨key, normalizePath_eq_ok hk, (Except.ok.inj h).symm⟩

/-- What is kept under the path of none of the new files stays. -/
lemma find?_of_insertAll (h : files.insertAll added = .ok more)
    (hk : ∀ f ∈ added, Path.normalize f.1 ≠ .ok key) : more.find? key = files.find? key := by
  induction added generalizing files with
  | nil =>
    obtain rfl := Except.ok.inj h
    rfl
  | cons f added ih =>
    obtain ⟨next, hf, h⟩ := bind_eq_ok_iff.mp h
    obtain ⟨new, hn, rfl⟩ := insert_eq_ok hf
    have hne : key ≠ new := by
      rintro rfl
      exact hk f List.mem_cons_self hn
    rw [ih h fun g hg => hk g (List.mem_cons_of_mem _ hg), Catalog.find?_insert, if_neg hne]

/-- A file that is read is read with new files beside it as well. -/
lemma read_keptBy (h : files.insertAll added = .ok more)
    (hnew : ∀ f ∈ added, ∀ key, Path.normalize f.1 = .ok key → files.find? key = none)
    (path : String) : Outcome.KeptBy (files.read path) (more.read path) := by
  intro content hread
  obtain ⟨key, hk, -⟩ := bind_eq_ok_iff.mp hread
  have hk := normalizePath_eq_ok hk
  rw [read_eq_ok_iff hk] at hread ⊢
  rw [find?_of_insertAll h, hread]
  intro f hf hn
  rw [hnew f hf key hn] at hread
  cases hread

/-- Among files none of which has this name it is found in a folder if it was there before. -/
lemma isFile_join_eq {folder name : String} (hn : Path.Ordinary name.toList)
    (h : files.insertAll added = .ok more)
    (hnew : ∀ f ∈ added, ∀ key, Path.normalize f.1 = .ok key →
      Path.fileName key.toList ≠ name.toList)
    (hj : joinPath folder name = .ok path) : more.isFile path = files.isFile path := by
  unfold isFile
  cases hk : Path.normalize path with
  | error refusal => rfl
  | ok key =>
    show more.contains key = files.contains key
    rw [Catalog.contains, Catalog.contains, find?_of_insertAll h]
    intro f hf hfk
    exact hnew f hf key hfk (Path.fileName_of_join hn (joinPath_eq_ok hj) hk)

end MemoryFiles

namespace Manifest

variable {s s' : Store}

/-- Where templates are found in the same folders, plain manifests that are found stay so. -/
lemma locate_keptBy {folder : String}
    (ht : ∀ path, joinPath folder Format.template.fileName = .ok path →
      s'.isFile path = s.isFile path)
    (hp : ∀ path, s.isFile path = true → s'.isFile path = true) :
    Outcome.KeptBy (locate s folder) (locate s' folder) := by
  intro found h
  unfold locate at h ⊢
  split at h
  · cases h
  · next template hj =>
    rw [ht template hj]
    split at h
    · next hf =>
      rw [if_pos hf]
      exact h
    · next hf =>
      rw [if_neg hf]
      split at h
      · cases h
      · split at h
        · next hplain =>
          rw [if_pos (hp _ hplain)]
          exact h
        · cases h

/-- Without a compiler, a manifest that is loaded stays so. -/
lemma load_none_keptBy {folder : String}
    (hl : Outcome.KeptBy (locate s folder) (locate s' folder))
    (hr : ∀ path, Outcome.KeptBy (s.read path) (s'.read path)) :
    Outcome.KeptBy (load s none folder) (load s' none folder) := by
  refine hl.bind fun found => (Store.readText_keptBy (hr found.1)).bind fun source => ?_
  have hcompile : compile s none folder found.1 source found.2
      = compile s' none folder found.1 source found.2 := by
    cases found.2 <;> rfl
  rw [hcompile]
  exact .refl _

end Manifest

/-- **New files that are no templates leave a picture as it is**, with its counts, if no compiler
is used. -/
theorem generate_insertAll {files more : MemoryFiles} {added : List (String × ByteArray)}
    {options : Options} {doc : Document} (hadd : files.insertAll added = .ok more)
    (hnew : ∀ f ∈ added, ∀ key, Path.normalize f.1 = .ok key →
      files.find? key = none ∧ Path.fileName key.toList ≠ "collagen.jsonnet".toList)
    (hc : options.compiler = none) (h : generate files.toStore options = .ok doc) :
    generate more.toStore options = .ok doc := by
  have hread := MemoryFiles.read_keptBy hadd fun f hf key hk => (hnew f hf key hk).1
  have hfile : ∀ path, files.isFile path = true → more.isFile path = true := by
    intro path hf
    obtain ⟨content, hr⟩ := MemoryFiles.isFile_eq_true_iff.mp hf
    exact MemoryFiles.isFile_eq_true_iff.mpr ⟨content, hread path content hr⟩
  have htemplate : ∀ folder path, joinPath folder Manifest.Format.template.fileName = .ok path →
      more.isFile path = files.isFile path := fun folder path hj =>
    MemoryFiles.isFile_join_eq (ordinary_manifestName (Manifest.Format.fileName_mem .template)) hadd
      (fun f hf key hk => (hnew f hf key hk).2) hj
  have hload : ∀ folder, Outcome.KeptBy (Manifest.load files.toStore options.compiler folder)
      (Manifest.load more.toStore options.compiler folder) := by
    intro folder
    rw [hc]
    exact Manifest.load_none_keptBy (Manifest.locate_keptBy (htemplate folder) hfile) hread
  have hsetting : (options.setting files.toStore).KeptBy (options.setting more.toStore) :=
    ⟨rfl, Nat.le_refl _, hread, hload, fun _ _ _ => .refl _⟩
  exact generate_keptBy hsetting doc h

/-- Files with a manifest that includes a folder, and the plain manifest of that folder. -/
def MemoryFiles.including : MemoryFiles :=
  .ofList
    [("collagen.json", "\x7b\"children\":[\x7b\"clgn_path\":\"part\"\x7d]\x7d".toUTF8),
     ("part/collagen.json", "\x7b\"children\":[\"a\"]\x7d".toUTF8)]

/-- A manifest in a further folder and a file beside the included one. -/
def MemoryFiles.unrelated : List (String × ByteArray) :=
  [("./other//collagen.json", "\x7b".toUTF8), ("part/a.png", "x".toUTF8)]

theorem generate_including_and_unrelated :
    ∃ more doc, MemoryFiles.including.insertAll MemoryFiles.unrelated = .ok more ∧
      more.keys = ["collagen.json", "other/collagen.json", "part/a.png", "part/collagen.json"] ∧
      generate more.toStore (.bare none) = .ok doc ∧
      doc.svg = "<svg xmlns=\"http://www.w3.org/2000/svg\"><g>a</g></svg>" := by
  have hadd : (MemoryFiles.including.insertAll MemoryFiles.unrelated).map (·.keys) =
      .ok ["collagen.json", "other/collagen.json", "part/a.png", "part/collagen.json"] := by
    decide +kernel
  have hwithin (m : Manifest.Loaded) : Resolve.documentWithin
      ((Options.bare none).setting MemoryFiles.including.toStore)
      (fun _ _ _ => throw (.assetNotFound "")) 3 m [] =
      Resolve.document ((Options.bare none).setting MemoryFiles.including.toStore) m [] :=
    Resolve.documentWithin_eq_of_files rfl (by decide +kernel) m []
  have hgen : (do
      let m ← Manifest.load MemoryFiles.including.toStore none ""
      let drawn ← (Resolve.documentWithin
        ((Options.bare none).setting MemoryFiles.including.toStore)
        (fun _ _ _ => throw (.assetNotFound "")) 3 m []).outcome
      return Document.mk (Markup.printElement drawn.1) m.sourceSize drawn.2 : Outcome Document).map
        (·.svg) = .ok "<svg xmlns=\"http://www.w3.org/2000/svg\"><g>a</g></svg>" := by
    decide +kernel
  simp only [hwithin] at hgen
  obtain ⟨more, hmore, hkeys⟩ := map_eq_ok_iff.mp hadd
  obtain ⟨doc, hdoc, hsvg⟩ := map_eq_ok_iff.mp hgen
  refine ⟨more, doc, hmore, hkeys, generate_insertAll hmore ?_ rfl hdoc, hsvg⟩
  intro f hf key hk
  simp only [MemoryFiles.unrelated, List.mem_cons, List.not_mem_nil, or_false] at hf
  rcases hf with rfl | rfl
  · obtain rfl : "other/collagen.json" = key := Except.ok.inj hk
    decide +kernel
  · obtain rfl : "part/a.png" = key := Except.ok.inj hk
    decide +kernel

end SvgSkeleton
