import SvgSkeleton.Proofs.RegularFolder
import SvgSkeleton.Proofs.Transfer

/-!
Copies of stores in memory. A copy of files in memory is those files. A copy of a folder on disk
holds the files that stand in it, and not what only links lead to; without links it answers as the
folder does, and a skeleton gives the same picture from either.
-/

namespace SvgSkeleton

/-- A catalog is determined by what is found in it. -/
lemma Catalog.eq_of_find? {α : Type} {c c' : Catalog α} (h : ∀ key, c.find? key = c'.find? key) :
    c = c' := by
  have distinct : ∀ c : Catalog α, c.entries.Nodup := fun c => List.Nodup.of_map _ c.nodup_keys
  have hperm : c.entries.Perm c'.entries := by
    refine (List.perm_ext_iff_of_nodup (distinct c) (distinct c')).mpr fun e => ?_
    rw [← lookup_eq_some_iff_mem c.nodup_keys, ← lookup_eq_some_iff_mem c'.nodup_keys]
    exact Eq.congr_left (h e.1)
  have hle : ∀ a b : String × α, a.1 < b.1 → b.1 < a.1 → a = b := fun a b hab hba =>
    absurd (String.lt_trans hab hba) (String.lt_irrefl a.1)
  have : c.entries = c'.entries := hperm.eq_of_pairwise (fun a b _ _ => hle a b)
    (List.pairwise_map.mp c.increasing) (List.pairwise_map.mp c'.increasing)
  obtain ⟨entries, hc⟩ := c
  obtain ⟨entries', hc'⟩ := c'
  obtain rfl : entries = entries' := this
  rfl

namespace MemoryFiles

/-! ### What a copy holds -/

lemma copyFiles_eq {s : Store} {paths : List String}
    (hr : ∀ path ∈ paths, ∃ content, s.read path = .ok content) (files : MemoryFiles) :
    ∃ copy, paths.foldlM (copyFile s) files = .ok copy ∧ ∀ key,
      copy.find? key = if key ∈ paths then (s.read key).toOption else files.find? key := by
  induction paths generalizing files with
  | nil => exact ⟨files, rfl, fun key => by simp⟩
  | cons path rest ih =>
    obtain ⟨content, hc⟩ := hr path List.mem_cons_self
    obtain ⟨copy, hcopy, hfind⟩ := ih (fun p hp => hr p (List.mem_cons_of_mem _ hp))
      (Catalog.insert files path content)
    refine ⟨copy, ?_, fun key => ?_⟩
    · rw [List.foldlM_cons, copyFile, hc]
      exact hcopy
    · rw [hfind, Catalog.find?_insert]
      by_cases hk : key = path
      · subst hk
        simp [hc, Except.toOption]
      · simp [hk]

/-- A store whose list holds paths that can all be read has a copy, which holds what they hold. -/
lemma exists_ofStore {s : Store} {paths : List String} (hl : s.list "" = .ok paths)
    (hr : ∀ path ∈ paths, ∃ content, s.read path = .ok content) :
    ∃ copy, ofStore s = .ok copy ∧ ∀ key content,
      copy.find? key = some content ↔ key ∈ paths ∧ s.read key = .ok content := by
  obtain ⟨copy, hcopy, hfind⟩ := copyFiles_eq hr Catalog.empty
  refine ⟨copy, ?_, fun key content => ?_⟩
  · rw [ofStore, hl]
    exact hcopy
  · rw [hfind]
    by_cases hk : key ∈ paths
    · simp only [hk, if_true, true_and]
      cases s.read key <;> simp [Except.toOption]
    · simp [hk, Catalog.find?, Catalog.empty]

/-! ### Copies of files in memory -/

lemma read_eq_ok_iff {files : MemoryFiles} {path key : String} {content : ByteArray}
    (h : Path.normalize path = .ok key) :
    files.read path = .ok content ↔ files.find? key = some content := by
  simp only [read, normalizePath, h, Except.mapError, bind, Except.bind]
  cases Catalog.find? files key <;> simp [pure, Except.pure]

/-- Files are kept under the normal forms of paths. -/
def Kept (files : MemoryFiles) : Prop := ∀ key ∈ files.keys, ∃ path, Path.normalize path = .ok key

lemma kept_empty : Kept Catalog.empty := by
  rintro key ⟨⟩

lemma kept_insert {files files' : MemoryFiles} {path : String} {content : ByteArray}
    (h : files.Kept) (hi : files.insert path content = .ok files') : files'.Kept := by
  obtain ⟨key, hk, hi⟩ := bind_eq_ok_iff.mp hi
  split at hi
  · cases hi
  · obtain rfl := Except.ok.inj hi
    intro k hm
    rcases Catalog.mem_keys_insertIn hm with rfl | hm
    · exact ⟨path, normalizePath_eq_ok hk⟩
    · exact h k hm

lemma normalize_of_kept {files : MemoryFiles} {key : String} (h : files.Kept)
    (hm : key ∈ files.keys) (hd : Path.hasDrive key.toList = false) :
    Path.normalize key = .ok key := by
  obtain ⟨path, hp⟩ := h key hm
  obtain ⟨names, hr, rfl⟩ := Path.normalize_eq_ok hp
  rw [String.toList_ofList] at hd
  refine Path.normalize_of_resolve ?_
  rw [String.toList_ofList]
  exact Path.resolve_ofSegments_eq hr hd

/-- A copy of files in memory is those files. -/
theorem ofStore_toStore {files : MemoryFiles} (h : files.Kept)
    (hd : ∀ key ∈ files.keys, Path.hasDrive key.toList = false) :
    ofStore files.toStore = .ok files := by
  have hread : ∀ key ∈ files.keys, ∀ content,
      files.read key = .ok content ↔ files.find? key = some content := fun key hm content =>
    read_eq_ok_iff (normalize_of_kept h hm (hd key hm))
  have hkey : ∀ key, key ∈ files.keys ↔ ∃ content, files.find? key = some content := by
    intro key
    rw [← Option.isSome_iff_exists]
    exact isSome_lookup_iff.symm
  have hl : files.toStore.list "" = .ok files.keys := by
    show Except.ok (files.keys.filter _) = _
    refine congrArg _ (List.filter_eq_self.mpr fun key _ => ?_)
    rfl
  obtain ⟨copy, hcopy, hfind⟩ := exists_ofStore hl fun key hm => by
    obtain ⟨content, hc⟩ := (hkey key).mp hm
    exact ⟨content, (hread key hm content).mpr hc⟩
  suffices he : copy = files by rw [hcopy, he]
  refine Catalog.eq_of_find? fun key => Option.ext fun content => ?_
  rw [hfind]
  constructor
  · rintro ⟨hm, hr⟩
    exact (hread key hm content).mp hr
  · intro hc
    have hm := (hkey key).mpr ⟨content, hc⟩
    exact ⟨hm, (hread key hm content).mpr hc⟩

end MemoryFiles

/-! ### Copies of folders on disk -/

/-- What is kept is what stands in the tree at the names to which paths resolve. -/
def MemoryFiles.Mirrors (files : MemoryFiles) (t : FileTree) : Prop :=
  ∀ (path : String) (names : List Path.Segment) (content : ByteArray),
    Path.resolve path.toList = .ok names →
      (files.find? (Path.ofNames names) = some content ↔
        t.at? (names.map Disk.fileName) = some (.file content))

lemma MemoryFiles.Mirrors.read_eq_ok_iff {files : MemoryFiles} {t : FileTree}
    (h : files.Mirrors t) {path : String} {content : ByteArray} :
    files.read path = .ok content ↔ ∃ names, Path.resolve path.toList = .ok names ∧
      t.at? (names.map Disk.fileName) = some (.file content) := by
  cases hr : Path.resolve path.toList with
  | error fault =>
    simp [read, normalizePath, Path.normalize, hr, Except.mapError, bind, Except.bind]
  | ok names =>
    rw [MemoryFiles.read_eq_ok_iff (Path.normalize_of_resolve hr), h path names content hr]
    simp

lemma MemoryFiles.isFile_eq_true_iff {files : MemoryFiles} {path : String} :
    files.isFile path = true ↔ ∃ content, files.read path = .ok content := by
  unfold isFile read normalizePath
  cases Path.normalize path with
  | error refusal => simp [Except.mapError, bind, Except.bind]
  | ok key =>
    simp only [Catalog.contains, Except.mapError, bind, Except.bind]
    cases Catalog.find? files key <;> simp [pure, Except.pure]

namespace Disk

/-- The folder holds a tree in which all files can be named in a path and all files and folders can
be opened. As on any disk, names in one folder are different, and none is too long. -/
structure Legible (d : Disk) (t : FileTree) : Prop where
  root : d.tree.at? d.root = some t
  distinct : t.Distinct
  named : ∀ place ∈ t.files, ∃ names, Path.Writable names ∧ place = names.map fileName
  short : ∀ place ∈ t.files, ∀ name ∈ place, name.length ≤ FileTree.nameLimit
  opened : ∀ place ∈ t.files ++ t.folders,
    FileTree.checkPath (FileTree.absolutePath (d.root ++ place)) = .ok ()

namespace Legible

variable {d : Disk} {t : FileTree} {names : List Path.Segment} {path : String}
  {content : ByteArray} (h : d.Legible t)
include h

/-- A file is read by every path that resolves to its names. -/
lemma read_eq (hf : t.at? (names.map fileName) = some (.file content))
    (hr : Path.resolve path.toList = .ok names) :
    d.find path = .ok (.ok ⟨d.placeOf names, d.placeOf names⟩) ∧ d.read path = .ok content := by
  have hm : names.map fileName ∈ t.files := (FileTree.mem_files_iff h.distinct).mpr ⟨content, hf⟩
  have hfind := find_eq hr <| follow_eq (d := d) (by rw [at?_placeOf h.root, hf]) (by simp)
    (fun s hs => h.short _ hm _ (List.mem_map_of_mem hs))
    (h.opened _ (List.mem_append_left _ hm))
  refine ⟨hfind, ?_⟩
  rw [read, hfind]
  simp [bind, Except.bind, FileTree.contentAt, at?_placeOf h.root, hf, pure, Except.pure]

lemma listable : d.Listable t where
  root := h.root
  distinct := h.distinct
  named place hp := (h.named place hp).imp fun _ hn => ⟨hn.1.ordinary, hn.2⟩
  opened := h.opened

/-- The list of the folder holds the paths of its files. -/
lemma exists_list :
    ∃ paths, d.list "" = .ok paths ∧ ∀ path, path ∈ paths ↔
      ∃ names, Path.Writable names ∧ names.map fileName ∈ t.files ∧ path = Path.ofNames names := by
  have hplace : d.placeOf [] = d.root := List.append_nil _
  have hroot : d.find "" = .ok (.ok ⟨d.placeOf [], d.placeOf []⟩) := by
    refine find_eq rfl ?_
    simp only [follow, List.map_nil, hplace]
    rw [FileTree.walk.eq_def]
    simp [FileTree.descend]
  have hx : t.at? (([] : List Path.Segment).map fileName) = some t := rfl
  have hopen := h.listable.checkListed_eq hx
  obtain ⟨paths, hpaths, -, hmem⟩ := h.listable.exists_paths hx
  refine ⟨paths.mergeSort fun a b => decide (a ≤ b), ?_, fun path => ?_⟩
  · have hn : normalizePath "" = .ok "" := rfl
    simp only [list, hn, hroot, at?_placeOf h.root, hx, bind, Except.bind, hopen, hpaths]
    rfl
  · rw [List.mem_mergeSort, hmem]
    constructor
    · rintro ⟨names, content, rfl, hc⟩
      have hm := (FileTree.mem_files_iff h.distinct).mpr ⟨content, hc⟩
      obtain ⟨others, hw, he⟩ := h.named _ hm
      obtain rfl := List.map_injective_iff.mpr fileName_injective he
      exact ⟨names, hw, hm, rfl⟩
    · rintro ⟨names, -, hm, rfl⟩
      obtain ⟨content, hc⟩ := (FileTree.mem_files_iff h.distinct).mp hm
      exact ⟨names, content, rfl, hc⟩

/-- **The files of the folder have a copy**, which holds what stands in the folder. -/
theorem exists_mirror :
    ∃ copy, MemoryFiles.ofStore d.toStore = .ok copy ∧ copy.Kept ∧ copy.Mirrors t := by
  obtain ⟨paths, hl, hmem⟩ := h.exists_list
  have hfile : ∀ path ∈ paths, ∃ names, Path.Writable names ∧ path = Path.ofNames names ∧
      ∃ content, t.at? (names.map fileName) = some (.file content) := by
    intro path hp
    obtain ⟨names, hw, hm, rfl⟩ := (hmem path).mp hp
    exact ⟨names, hw, rfl, (FileTree.mem_files_iff h.distinct).mp hm⟩
  obtain ⟨copy, hcopy, hfind⟩ := MemoryFiles.exists_ofStore (s := d.toStore) hl fun path hp => by
    obtain ⟨names, hw, rfl, content, hc⟩ := hfile path hp
    exact ⟨content, (h.read_eq hc hw.resolve).2⟩
  refine ⟨copy, hcopy, ?_, fun path names content hr => ?_⟩
  · intro key hk
    obtain ⟨content, hc⟩ := Option.isSome_iff_exists.mp (isSome_lookup_iff.mpr hk)
    obtain ⟨names, hw, rfl, -⟩ := hfile key ((hfind key content).mp hc).1
    exact ⟨_, Path.normalize_of_resolve hw.resolve⟩
  rw [hfind]
  constructor
  · rintro ⟨hp, hread⟩
    obtain ⟨others, hw, he, got, hg⟩ := hfile _ hp
    obtain rfl := Path.ofNames_injective (Path.ordinary_of_resolve hr) hw.ordinary he
    have := (h.read_eq hg hw.resolve).2.symm.trans hread
    rw [hg, Except.ok.inj this]
  · intro hc
    have hm := (FileTree.mem_files_iff h.distinct).mpr ⟨content, hc⟩
    obtain ⟨others, hw, he⟩ := h.named _ hm
    obtain rfl := List.map_injective_iff.mpr fileName_injective he
    exact ⟨(hmem _).mpr ⟨names, hw, hm, rfl⟩, (h.read_eq hc hw.resolve).2⟩

variable {copy : MemoryFiles} (hc : copy.Mirrors t)
include hc

/-- A file of the copy is one of the folder, with the same content. -/
lemma isFile_of_copy (hf : copy.isFile path = true) :
    d.isFile path = true ∧ copy.read path = d.read path := by
  obtain ⟨content, hread⟩ := MemoryFiles.isFile_eq_true_iff.mp hf
  obtain ⟨names, hr, hx⟩ := hc.read_eq_ok_iff.mp hread
  obtain ⟨hfind, hdisk⟩ := h.read_eq hx hr
  refine ⟨?_, hread.trans hdisk.symm⟩
  simp [isFile, hfind, FileTree.isFileAt, at?_placeOf h.root, hx, FileTree.isFile]

omit hc in
lemma avoidsLinks (hp : t.Plain) (path : String) : d.AvoidsLinks path :=
  fun names _ => direct_of_plain h.root hp names

/-- Where no link is on the way, the copy has the files of the folder. -/
lemma isFile_eq (ha : d.AvoidsLinks path) : copy.isFile path = d.isFile path := by
  rw [Bool.eq_iff_iff]
  refine ⟨fun hf => (h.isFile_of_copy hc hf).1, fun hf => ?_⟩
  obtain ⟨found, hfound, content, hx⟩ := exists_found_of_isFile hf
  obtain ⟨names, hr, rfl⟩ := find_eq_ok_of_avoidsLinks ha hfound
  rw [at?_placeOf h.root] at hx
  exact MemoryFiles.isFile_eq_true_iff.mpr ⟨content, hc.read_eq_ok_iff.mpr ⟨names, hr, hx⟩⟩

/-- Where there are only files and folders, the copy has all that is read from the folder. -/
lemma read_of_plain (hp : t.Plain) (hread : d.read path = .ok content) :
    copy.read path = .ok content := by
  obtain ⟨found, hfound, hx⟩ := exists_found_of_read hread
  obtain ⟨names, hr, rfl⟩ := find_eq_ok_of_avoidsLinks (h.avoidsLinks hp path) hfound
  refine hc.read_eq_ok_iff.mpr ⟨names, hr, ?_⟩
  rw [FileTree.contentAt, at?_placeOf h.root] at hx
  cases hu : t.at? (names.map fileName) with
  | none =>
    rw [hu] at hx
    cases hx
  | some u =>
    have := FileTree.plain_of_at? hp hu
    rw [hu] at hx
    cases u with
    | file got =>
      obtain rfl := Except.ok.inj hx
      rfl
    | special kind => exact this.elim
    | link target => exact this.elim
    | folder entries => cases hx

section

variable (hall : ∀ path content, d.read path = .ok content → copy.read path = .ok content)
include hall

lemma read_eq_ok_iff : d.read path = .ok content ↔ copy.read path = .ok content := by
  refine ⟨hall path content, fun hread => ?_⟩
  rw [← hread, ← (h.isFile_of_copy hc (MemoryFiles.isFile_eq_true_iff.mpr ⟨content, hread⟩)).2]

lemma isFile_eq_of_read : d.isFile = copy.isFile := by
  funext path
  rw [Bool.eq_iff_iff]
  refine ⟨fun hf => ?_, fun hf => (h.isFile_of_copy hc hf).1⟩
  obtain ⟨found, hfound, content, hx⟩ := exists_found_of_isFile hf
  refine MemoryFiles.isFile_eq_true_iff.mpr ⟨content, hall path content ?_⟩
  rw [read, hfound]
  simp [bind, Except.bind, FileTree.contentAt, hx, pure, Except.pure]

/-- A folder with a manifest is where its path says, since its manifest is in the copy. -/
lemma direct_of_load {compiler : Option Template.Compiler} {folder : String} {m : Manifest.Loaded}
    (hl : Manifest.load d.toStore compiler folder = .ok m)
    (hr : Path.resolve folder.toList = .ok names) : d.Direct names := by
  obtain ⟨found, hloc⟩ := Manifest.exists_locate_of_load hl
  obtain ⟨hj, hfile⟩ := Manifest.exists_file_of_locate hloc
  have hord := ordinary_manifestName found.2.fileName_mem
  replace hfile : copy.isFile found.1 = true := by
    rw [← h.isFile_eq_of_read hc hall]
    exact hfile
  obtain ⟨content, hread⟩ := MemoryFiles.isFile_eq_true_iff.mp hfile
  obtain ⟨got, hg, hx⟩ := hc.read_eq_ok_iff.mp hread
  rw [Path.join_name hord hr (joinPath_eq_ok hj), String.toList_ofList] at hg
  have hords : ∀ s ∈ names ++ [found.2.fileName.toList], Path.Ordinary s := by
    intro s hs
    rcases List.mem_append.mp hs with hs | hs
    · exact Path.ordinary_of_resolve hr s hs
    · exact List.mem_singleton.mp hs ▸ hord
  obtain rfl := Path.resolve_ofSegments hords hg
  rw [List.map_append, FileTree.at?_append, Option.bind_eq_some_iff] at hx
  obtain ⟨u, hu, hx⟩ := hx
  exact FileTree.noLink_of_at? h.root hu (FileTree.ne_link_of_at? hx)

lemma canonicalFolder_keptBy {compiler : Option Template.Compiler} {folder : String}
    {m : Manifest.Loaded} (hl : Manifest.load d.toStore compiler folder = .ok m) :
    Outcome.KeptBy (d.canonicalFolder folder) (normalizePath folder) := by
  intro canonical hcan
  obtain ⟨o, hfind, hcan⟩ := bind_eq_ok_iff.mp hcan
  cases o with
  | error reason => exact hcan
  | ok found =>
    obtain ⟨names, hr, rfl⟩ := find_eq_ok_of_avoidsLinks
      (fun names => h.direct_of_load hc hall hl) hfind
    rw [normalizePath, Path.normalize_of_resolve hr, ← hcan]
    exact (d.pathOf_placeOf names).symm

/-- A copy that has all that is read from the folder can stand in for it. -/
lemma setting_keptBy {options : Options}
    (ho : ∀ compiler ∈ options.compiler, compiler.IgnoresFolder) :
    (options.setting d.toStore).KeptBy (options.setting copy.toStore) where
  fonts := rfl
  maxDepth := Nat.le_refl _
  read := hall
  load := Manifest.load_keptBy (h.isFile_eq_of_read hc hall)
    (fun _ _ => h.read_eq_ok_iff hc hall) ho
  canonicalFolder _ _ hl := h.canonicalFolder_keptBy hc hall hl

end

end Legible

end Disk

/-- **Copies in memory are faithful.** A copy of files in memory is those files. A folder on disk
whose files can be named and opened has a copy; every file of the copy is one of the folder, with
the same content, and every file of the folder that is reached without links is one of the copy.
Where there are only files and folders, the copy has all that is read from the folder; and where it
has, a skeleton from which a picture comes gives the same one from the copy, unless its compiler
asks where on disk it is. -/
theorem ofStore_faithful :
    (∀ files : MemoryFiles, files.Kept →
      (∀ key ∈ files.keys, Path.hasDrive key.toList = false) →
        MemoryFiles.ofStore files.toStore = .ok files) ∧
    ∀ (d : Disk) (t : FileTree), d.Legible t →
      ∃ copy, MemoryFiles.ofStore d.toStore = .ok copy ∧ copy.Kept ∧
        (∀ path, copy.isFile path = true → d.isFile path = true ∧ copy.read path = d.read path) ∧
        (∀ path, d.AvoidsLinks path → copy.isFile path = d.isFile path) ∧
        (t.Plain → ∀ path, copy.isFile path = d.isFile path ∧
          ∀ content, d.read path = .ok content → copy.read path = .ok content) ∧
        ((∀ path content, d.read path = .ok content → copy.read path = .ok content) →
          ∀ options document, (∀ compiler ∈ options.compiler, compiler.IgnoresFolder) →
            generate d.toStore options = .ok document →
              generate copy.toStore options = .ok document) := by
  refine ⟨fun files => MemoryFiles.ofStore_toStore, fun d t h => ?_⟩
  obtain ⟨copy, hcopy, hkept, hc⟩ := h.exists_mirror
  refine ⟨copy, hcopy, hkept, fun path => h.isFile_of_copy hc, fun path => h.isFile_eq hc, ?_, ?_⟩
  · exact fun hp path => ⟨h.isFile_eq hc (h.avoidsLinks hp path),
      fun content => h.read_of_plain hc hp⟩
  · exact fun hall options document ho =>
      generate_keptBy (h.setting_keptBy hc hall ho) document

/-- A folder with a manifest and, in a folder inside, the image that it shows. -/
def Disk.pictured : Disk :=
  ⟨.folder
    [(Disk.fileName "collagen.json".toList,
      .file "\x7b\"children\":[\x7b\"image_path\":\"img/a.png\"\x7d]\x7d".toUTF8),
     (Disk.fileName "img".toList,
      .folder [(Disk.fileName "a.png".toList, .file "x".toUTF8)])], []⟩

lemma Disk.legible_pictured : pictured.Legible pictured.tree where
  root := rfl
  distinct := by decide +kernel
  named := by
    intro place hp
    have hp : place ∈ [["collagen.json".toList].map Disk.fileName,
      ["img".toList, "a.png".toList].map Disk.fileName] := hp
    simp only [List.mem_cons, List.not_mem_nil, or_false] at hp
    rcases hp with rfl | rfl
    · exact ⟨_, by decide, rfl⟩
    · exact ⟨_, by decide, rfl⟩
  short := by decide +kernel
  opened := by
    intro place hp
    rw [FileTree.checkPath_eq_ok]
    revert place
    decide +kernel

def Options.bare (compiler : Option Template.Compiler) : Options :=
  ⟨false, defaultMaxDepth, [], Catalog.empty, compiler⟩

theorem ofStore_pictured :
    MemoryFiles.ofStore (MemoryFiles.toStore (Catalog.insert Catalog.empty "a/b" .empty))
        = .ok (Catalog.insert Catalog.empty "a/b" .empty) ∧
      ∃ copy document, MemoryFiles.ofStore Disk.pictured.toStore = .ok copy ∧
        copy.isFile "img/./a.png" = true ∧ copy.read "img/./a.png" = .ok "x".toUTF8 ∧
        generate Disk.pictured.toStore (.bare none) = .ok document ∧
        generate copy.toStore (.bare none) = .ok document := by
  obtain ⟨hmemory, hdisk⟩ := ofStore_faithful
  refine ⟨hmemory _ ?_ ?_, ?_⟩
  · have hi : MemoryFiles.insert Catalog.empty "a//b" .empty
        = .ok (Catalog.insert Catalog.empty "a/b" .empty) := rfl
    exact MemoryFiles.kept_insert MemoryFiles.kept_empty hi
  · decide +kernel
  · have hp : Disk.pictured.tree.Plain := ⟨trivial, ⟨trivial, trivial⟩, trivial⟩
    obtain ⟨copy, hcopy, -, -, -, hplain, hgen⟩ := hdisk _ _ Disk.legible_pictured
    have hall := hplain hp
    obtain ⟨document, hdoc, -⟩ := exists_of_any (p := fun _ => true)
      (x := generate Disk.pictured.toStore (.bare none)) (by decide +kernel)
    have hread : Disk.pictured.read "img/./a.png" = .ok "x".toUTF8 := by rfl
    refine ⟨copy, document, hcopy, ?_, (hall _).2 _ hread, hdoc, ?_⟩
    · rw [(hall _).1]
      decide +kernel
    · exact hgen (fun path => (hall path).2) _ document (by simp [Options.bare]) hdoc

/-! ### What is not copied -/

/-- A folder with a file, a link to it and a device. -/
def Disk.irregular : Disk :=
  ⟨.folder
    [(Disk.fileName "a.txt".toList, .file "x".toUTF8),
     (Disk.fileName "b.txt".toList, .link (Text.bytesOf "a.txt")),
     (Disk.fileName "null".toList, .special .null)], []⟩

/-- A folder with a file whose name no path can hold. -/
def Disk.backslashed : Disk := ⟨.folder [(Disk.fileName "a\\b".toList, .file .empty)], []⟩

/-- A folder whose manifest is a template. -/
def Disk.templated : Disk :=
  ⟨.folder [(Disk.fileName "collagen.jsonnet".toList, .file .empty)], []⟩

/-- A compiler that works in folders on disk only. -/
def Template.Compiler.inFolder : Template.Compiler := fun _ imports =>
  if imports.searchFolder.isSome then .ok "\x7b\x7d" else .error .noCompiler

/-- Links are followed, and devices opened, where a path is read, but neither is listed as a file; a
copy is not a folder on disk; and a file whose name no path can hold cannot be copied. -/
theorem ofStore_unfaithful :
    (∃ copy, MemoryFiles.ofStore Disk.irregular.toStore = .ok copy ∧
      Disk.irregular.isFile "b.txt" = true ∧ copy.isFile "b.txt" = false ∧
      Disk.irregular.read "null" = .ok .empty ∧ ∀ content, copy.read "null" ≠ .ok content) ∧
    (∃ copy document, MemoryFiles.ofStore Disk.templated.toStore = .ok copy ∧
      generate Disk.templated.toStore (.bare (some .inFolder)) = .ok document ∧
      generate copy.toStore (.bare (some .inFolder)) ≠ .ok document) ∧
    ∃ error, MemoryFiles.ofStore Disk.backslashed.toStore = .error error := by
  refine ⟨?_, ?_, ?_⟩
  · obtain ⟨copy, hcopy, hb⟩ := exists_of_any
      (p := fun copy => !copy.isFile "b.txt" && !copy.isFile "null")
      (x := MemoryFiles.ofStore Disk.irregular.toStore) (by decide +kernel)
    simp only [Bool.and_eq_true, Bool.not_eq_true'] at hb
    refine ⟨copy, hcopy, by decide +kernel, hb.1, rfl, fun content hread => ?_⟩
    have := MemoryFiles.isFile_eq_true_iff.mpr ⟨content, hread⟩
    rw [hb.2] at this
    cases this
  · obtain ⟨copy, hcopy, hb⟩ := exists_of_any
      (p := fun copy => (generate copy.toStore (.bare (some .inFolder))).toOption.isNone)
      (x := MemoryFiles.ofStore Disk.templated.toStore) (by decide +kernel)
    obtain ⟨document, hdoc, -⟩ := exists_of_any (p := fun _ => true)
      (x := generate Disk.templated.toStore (.bare (some .inFolder))) (by decide +kernel)
    refine ⟨copy, document, hcopy, hdoc, fun h => ?_⟩
    rw [h] at hb
    cases hb
  · exact exists_error_of_isNone (by decide +kernel)

end SvgSkeleton
