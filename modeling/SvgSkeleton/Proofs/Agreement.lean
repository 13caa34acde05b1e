import SvgSkeleton.Proofs.Generation
import SvgSkeleton.Proofs.Snapshot

/-!
A folder on disk and the same files in memory. They have the same files, the same lists of them and
the same folders, and what is read from the one is read from the other. They part where there is
nothing to read: in memory a file is just missing, while the system may have another reason not to
open a path, as that a file stands where the path goes on. And a list of a path whose normal form
begins with a drive is refused on disk.
-/

namespace SvgSkeleton

/-! ### What is under a folder -/

namespace Path

lemma ofSegments_append_of_ne_nil {a b : List Segment} (ha : a ≠ []) (hb : b ≠ []) :
    ofSegments (a ++ b) = ofSegments a ++ '/' :: ofSegments b := by
  induction a with
  | nil => exact absurd rfl ha
  | cons s rest ih =>
    cases rest with
    | nil =>
      cases b with
      | nil => exact absurd rfl hb
      | cons t b => rfl
    | cons u rest =>
      have := ih (by simp)
      simp only [List.cons_append] at this
      simp [ofSegments, this]

end Path

namespace MemoryFiles

open SvgSkeleton.Path

/-- Under a folder is the folder itself, and what goes on from it behind a slash. -/
lemma isUnder_iff {folder path : List Char} :
    isUnder folder path = true ↔
      folder = [] ∨ path = folder ∨ ∃ rest, path = folder ++ '/' :: rest := by
  rw [isUnder, Bool.or_eq_true, List.isEmpty_iff]
  refine or_congr Iff.rfl ?_
  constructor
  · intro h
    split at h
    · cases h
    · next rest hrest =>
      obtain rfl := Text.append_of_isPrefixOf? hrest
      rcases Bool.or_eq_true_iff.mp h with h | h
      · exact .inl (by rw [List.isEmpty_iff.mp h, List.append_nil])
      · unfold Path.startsWithSlash at h
        split at h
        · exact .inr ⟨_, rfl⟩
        · cases h
  · rintro (rfl | ⟨rest, rfl⟩)
    · rw [List.isPrefixOf?_eq_some_iff_append_eq.mpr (List.append_nil path)]
      rfl
    · rw [List.isPrefixOf?_eq_some_iff_append_eq.mpr rfl]
      rfl

/-- The paths under that of names are those of the names that begin with them. -/
lemma isUnder_ofSegments_iff {names all : List Segment} (hn : ∀ s ∈ names, Ordinary s)
    (ha : ∀ s ∈ all, Ordinary s) :
    isUnder (ofSegments names) (ofSegments all) = true ↔ names <+: all := by
  by_cases hnil : names = []
  · subst hnil
    exact iff_of_true rfl List.nil_prefix
  rw [isUnder_iff]
  constructor
  · rintro (h | h | ⟨rest, h⟩)
    · have he : ofNames names = ofNames [] := congrArg String.ofList h
      exact absurd (ofNames_injective hn (by simp) he) hnil
    · obtain rfl := ofNames_injective ha hn (congrArg String.ofList h)
      exact List.prefix_rfl
    · have hall : all ≠ [] := by
        rintro rfl
        exact absurd h.symm (by simp [ofSegments])
      have hs := congrArg segments h
      rw [segments_append_slash, segments_ofSegments hall fun s hs => (ha s hs).slash,
        segments_ofSegments hnil fun s hs => (hn s hs).slash] at hs
      exact ⟨_, hs.symm⟩
  · rintro ⟨rest, rfl⟩
    by_cases hr : rest = []
    · subst hr
      exact .inr (.inl (by rw [List.append_nil]))
    · exact .inr (.inr ⟨_, ofSegments_append_of_ne_nil hnil hr⟩)

end MemoryFiles

/-- Sorting puts in order. -/
lemma pairwise_mergeSort (l : List String) :
    (l.mergeSort fun a b => decide (a ≤ b)).Pairwise (· ≤ ·) := by
  have := @List.pairwise_mergeSort String (fun a b => decide (a ≤ b))
    (fun a b c hab hbc => by
      simp only [decide_eq_true_eq] at hab hbc ⊢
      exact String.le_trans hab hbc)
    (fun a b => by simpa using String.le_total a b) l
  simpa only [decide_eq_true_eq] using this

lemma pairwise_lt_mergeSort {l : List String} (hl : l.Nodup) :
    (l.mergeSort fun a b => decide (a ≤ b)).Pairwise (· < ·) := by
  have hn := ((List.mergeSort_perm l fun a b => decide (a ≤ b)).nodup_iff).mpr hl
  exact (pairwise_mergeSort l).imp₂ (fun a b hab hne => Std.lt_of_le_of_ne hab hne) hn

/-- A sorted list is determined by what is in it, if nothing is in it twice. -/
lemma mergeSort_eq_of_mem_iff {l keys : List String} (hl : l.Nodup) (hk : keys.Pairwise (· < ·))
    (h : ∀ a, a ∈ l ↔ a ∈ keys) : (l.mergeSort fun a b => decide (a ≤ b)) = keys := by
  have hn : keys.Nodup := hk.imp fun hab => by
    rintro rfl
    exact String.lt_irrefl _ hab
  have hperm : (l.mergeSort fun a b => decide (a ≤ b)).Perm keys :=
    (List.mergeSort_perm ..).trans ((List.perm_ext_iff_of_nodup hl hn).mpr h)
  exact hperm.eq_of_pairwise (fun a b _ _ hab hba => String.le_antisymm hab hba)
    (pairwise_mergeSort l) (hk.imp fun hab => Std.le_of_lt hab)

/-! ### The same answers -/

/-- What is kept is what stands in the tree, under the paths of the names there. -/
def MemoryFiles.Holds (files : MemoryFiles) (t : FileTree) : Prop :=
  ∀ key content, files.find? key = some content ↔
    ∃ names : List Path.Segment,
      key = Path.ofNames names ∧ t.at? (names.map Disk.fileName) = some (.file content)

namespace Disk

namespace Regular

variable {d : Disk} {t : FileTree} {files : MemoryFiles} {names : List Path.Segment}
  {path : String} {reason : OsError} (h : d.Regular t) (hf : files.Holds t)
include h hf

lemma mirrors : files.Mirrors t := by
  intro path names content hr
  rw [hf]
  constructor
  · rintro ⟨others, he, hx⟩
    obtain rfl := Path.ofNames_injective (Path.ordinary_of_resolve hr) (h.ordinary_of_at? hx) he
    exact hx
  · exact fun hx => ⟨names, rfl, hx⟩

/-- What is read in memory is the file at the place of the names, if there is one. -/
lemma read_memory (hr : Path.resolve path.toList = .ok names) :
    files.read path =
      (t.contentAt (names.map fileName)).mapError fun _ => .assetNotFound path := by
  have hiff (content : ByteArray) := h.mirrors hf path names content hr
  have hread : files.read path =
      (files.find? (Path.ofNames names)).elim (.error (.assetNotFound path)) .ok := by
    rw [MemoryFiles.read, Path.normalizePath_of_resolve hr]
    simp only [bind, Except.bind]
    cases files.find? (Path.ofNames names) <;> rfl
  rw [hread, FileTree.contentAt]
  cases hx : t.at? (names.map fileName) with
  | none =>
    cases hfind : files.find? (Path.ofNames names) with
    | none => rfl
    | some content => cases hx.symm.trans ((hiff content).mp hfind)
  | some x =>
    have hplain := FileTree.plain_of_at? h.plain hx
    cases x with
    | file content =>
      rw [(hiff content).mpr hx]
      rfl
    | folder entries =>
      cases hfind : files.find? (Path.ofNames names) with
      | none => rfl
      | some content => cases hx.symm.trans ((hiff content).mp hfind)
    | special kind => exact hplain.elim
    | link target => exact hplain.elim

/-- Where nothing is denied, the same is read. -/
lemma read_eq (hd : ∀ reason, ¬ d.Denies path reason) : d.read path = files.read path := by
  cases hr : Path.resolve path.toList with
  | error fault =>
    simp [read, find, MemoryFiles.read, normalizePath, Path.normalize, hr, Except.mapError, bind,
      Except.bind]
  | ok names =>
    rw [h.read_memory hf hr]
    rcases h.follow_cases names with ⟨x, hx, hfollow⟩ | ⟨hx, reason, hfollow, hb⟩
    · have hcontent : d.tree.contentAt (d.placeOf names) = t.contentAt (names.map fileName) := by
        rw [FileTree.contentAt, at?_placeOf h.root, ← FileTree.contentAt]
      rw [read, find_eq hr hfollow]
      simp only [bind, Except.bind, hcontent]
      cases t.contentAt (names.map fileName) <;> rfl
    · have hreason : reason = .noEntry := by
        by_contra hne
        exact hd reason ⟨hne, names, hr, hb⟩
      subst hreason
      rw [read, find_eq_error hr hfollow, FileTree.contentAt, hx]
      rfl

/-- What is denied is missing in memory. -/
lemma read_of_denies (hd : d.Denies path reason) :
    d.read path = .error (.io reason) ∧ files.read path = .error (.assetNotFound path) := by
  obtain ⟨hne, names, hr, hb⟩ := hd
  have hfollow := h.follow_of_bars hb
  constructor
  · rw [read, find_eq_error hr hfollow]
    cases reason with
    | noEntry => exact absurd rfl hne
    | _ => rfl
  · rcases h.follow_cases names with ⟨x, hx, hfound⟩ | ⟨hx, -⟩
    · cases hfollow.symm.trans hfound
    · rw [h.read_memory hf hr, FileTree.contentAt, hx]
      rfl

/-- The same paths are those of files. -/
lemma isFile_eq (path : String) : d.isFile path = files.isFile path := by
  rw [Bool.eq_iff_iff, MemoryFiles.isFile_eq_true_iff]
  constructor
  · intro hfile
    obtain ⟨found, hfound, content, hx⟩ := exists_found_of_isFile hfile
    obtain ⟨names, hr, rfl⟩ := find_eq_ok_of_avoidsLinks (fun names _ => h.direct names) hfound
    rw [at?_placeOf h.root] at hx
    exact ⟨content, (h.mirrors hf).read_eq_ok_iff.mpr ⟨names, hr, hx⟩⟩
  · rintro ⟨content, hread⟩
    obtain ⟨names, hr, hx⟩ := (h.mirrors hf).read_eq_ok_iff.mp hread
    rw [isFile, find_eq hr (h.follow_of_at? hx)]
    simp [FileTree.isFileAt, at?_placeOf h.root, hx, FileTree.isFile]

/-- What is kept under names is what stands below their place. -/
lemma mem_keys_under_iff (hn : ∀ s ∈ names, Path.Ordinary s) (key : String) :
    (key ∈ files.keys ∧
        MemoryFiles.isUnder (Path.ofNames names).toList key.toList = true) ↔
      ∃ rest content, key = Path.ofNames (names ++ rest) ∧
        t.at? ((names ++ rest).map fileName) = some (.file content) := by
  constructor
  · rintro ⟨hkey, hunder⟩
    obtain ⟨content, hfind⟩ := Option.isSome_iff_exists.mp (isSome_lookup_iff.mpr hkey)
    obtain ⟨all, rfl, hx⟩ := (hf _ _).mp hfind
    rw [Path.ofNames, Path.ofNames, String.toList_ofList, String.toList_ofList,
      MemoryFiles.isUnder_ofSegments_iff hn (h.ordinary_of_at? hx)] at hunder
    obtain ⟨rest, rfl⟩ := hunder
    exact ⟨rest, content, rfl, hx⟩
  · rintro ⟨rest, content, rfl, hx⟩
    refine ⟨isSome_lookup_iff.mp ?_, ?_⟩
    · exact Option.isSome_iff_exists.mpr ⟨content, (hf _ _).mpr ⟨_, rfl, hx⟩⟩
    · rw [Path.ofNames, Path.ofNames, String.toList_ofList, String.toList_ofList,
        MemoryFiles.isUnder_ofSegments_iff hn (h.ordinary_of_at? hx)]
      exact List.prefix_append ..

/-- Under a path are the same files, unless its normal form begins with a drive. -/
lemma list_eq
    (hd : ∀ normal, normalizePath path = .ok normal → Path.hasDrive normal.toList = false) :
    d.list path = files.list path := by
  cases hr : Path.resolve path.toList with
  | error fault =>
    simp [list, MemoryFiles.list, normalizePath, Path.normalize, hr, Except.mapError, bind,
      Except.bind]
  | ok names =>
    have hnormal := Path.normalizePath_of_resolve hr
    have hdrive := hd _ hnormal
    rw [Path.ofNames, String.toList_ofList] at hdrive
    obtain ⟨paths, hlist, hnodup, hmem⟩ := h.exists_list hr hdrive
    rw [hlist, MemoryFiles.list, hnormal]
    refine congrArg Except.ok (mergeSort_eq_of_mem_iff hnodup ?_ fun p => ?_)
    · exact files.increasing.filter _
    · rw [hmem, List.mem_filter, h.mem_keys_under_iff hf (Path.ordinary_of_resolve hr)]

end Regular

/-! ### The same pictures -/

/-- The same outcome, unless the system denies a path at which in memory there is nothing. -/
def SameUnlessDenied {α : Type} (d : Disk) (o o' : Outcome α) : Prop :=
  o = o' ∨ ∃ path reason, d.Denies path reason ∧
    o = .error (.io reason) ∧ o' = .error (.assetNotFound path)

namespace SameUnlessDenied

variable {α β : Type} {d : Disk} {o o' : Outcome α}

lemma refl (o : Outcome α) : d.SameUnlessDenied o o := .inl rfl

lemma bind {f f' : α → Outcome β} (h : d.SameUnlessDenied o o')
    (hf : ∀ a, d.SameUnlessDenied (f a) (f' a)) : d.SameUnlessDenied (o >>= f) (o' >>= f') := by
  rcases h with rfl | ⟨path, reason, hd, rfl, rfl⟩
  · cases o with
    | ok a => exact hf a
    | error e => exact refl _
  · exact .inr ⟨path, reason, hd, rfl, rfl⟩

lemma done (h : d.SameUnlessDenied o o') :
    d.SameUnlessDenied (Resolve.done o) (Resolve.done o') := by
  rcases h with rfl | ⟨path, reason, hd, rfl, rfl⟩
  · exact refl _
  · exact .inr ⟨path, reason, hd, rfl, rfl⟩

/-- Acts that are the same one by one are the same one after the other. -/
lemma performAll {s s' : Resolve.Surroundings} {acts : List Resolve.Act}
    (h : ∀ a ∈ acts, d.SameUnlessDenied (Resolve.perform s a) (Resolve.perform s' a)) :
    d.SameUnlessDenied (Resolve.performAll s acts) (Resolve.performAll s' acts) := by
  induction acts with
  | nil => exact refl _
  | cons a acts ih =>
    obtain ⟨ha, hacts⟩ := List.forall_mem_cons.mp h
    rw [Resolve.performAll_cons, Resolve.performAll_cons]
    exact ha.bind fun _ => ih hacts

end SameUnlessDenied

namespace Regular

variable {d : Disk} {t : FileTree} {files : MemoryFiles} {options : Options}
  (h : d.Regular t) (hf : files.Holds t)
include h hf

/-- The same is read, unless the system denies what is missing in memory. -/
lemma read_same (path : String) : d.SameUnlessDenied (d.read path) (files.read path) := by
  by_cases hd : ∃ reason, d.Denies path reason
  · obtain ⟨reason, hd⟩ := hd
    obtain ⟨hdisk, hmemory⟩ := h.read_of_denies hf hd
    exact .inr ⟨path, reason, hd, hdisk, hmemory⟩
  · exact .inl (h.read_eq hf (not_exists.mp hd))

lemma read_eq_ok_iff (path : String) (content : ByteArray) :
    d.read path = .ok content ↔ files.read path = .ok content := by
  rcases h.read_same hf path with he | ⟨missing, reason, -, hdisk, hmemory⟩
  · rw [he]
  · rw [hdisk, hmemory]
    exact iff_of_false (by simp) (by simp)

open Resolve

lemma asset_same (chain : IncludeChain) (folder path : String) :
    d.SameUnlessDenied (asset (inside (options.setting d.toStore) chain folder) path)
      (asset (inside (options.setting files.toStore) chain folder) path) :=
  (SameUnlessDenied.refl _).bind fun path => (h.read_same hf path).bind fun _ => .refl _

/-- What is not an include comes to the same. -/
lemma perform_same (chain : IncludeChain) (folder : String) {a : Act}
    (ha : ∀ path, a ≠ .folder path) :
    d.SameUnlessDenied (perform (inside (options.setting d.toStore) chain folder) a)
      (perform (inside (options.setting files.toStore) chain folder) a) := by
  cases a with
  | fill vars element text => exact .refl _
  | image path kind => exact ((h.asset_same hf chain folder path).bind fun _ => .refl _).done
  | face face =>
    refine SameUnlessDenied.done ?_
    unfold fontBytes
    cases face.source with
    | bundled => exact .refl _
    | file path => exact (h.asset_same hf chain folder path).bind fun _ => .refl _
  | markup path =>
    refine SameUnlessDenied.done ((SameUnlessDenied.refl _).bind fun file => ?_)
    exact ((h.read_same hf file).bind fun _ => .refl _).bind fun _ => .refl _
  | folder path => exact absurd rfl (ha path)

variable (ho : ∀ compiler ∈ options.compiler, compiler.IgnoresFolder)
include ho

/-- The same manifests are loaded. -/
lemma load_eq (folder : String) :
    Manifest.load d.toStore options.compiler folder =
      Manifest.load files.toStore options.compiler folder := by
  refine Manifest.load_eq (funext (h.isFile_eq hf)) (h.read_eq_ok_iff hf) ho ?_ folder
  intro path hfile
  have hmemory : files.isFile path = true := (h.isFile_eq hf path).symm.trans hfile
  obtain ⟨content, hread⟩ := MemoryFiles.isFile_eq_true_iff.mp hmemory
  exact ((h.read_eq_ok_iff hf path content).mpr hread).trans hread.symm

lemma setting_keptBy : (options.setting d.toStore).KeptBy (options.setting files.toStore) where
  fonts := rfl
  maxDepth := Nat.le_refl _
  read path content := (h.read_eq_ok_iff hf path content).mp
  load folder _ hm := (h.load_eq hf ho folder).symm.trans hm
  canonicalFolder folder _ _ _ hc := (h.canonicalFolder_eq folder).symm.trans hc

/-- The same folders are entered. -/
lemma enter_eq (chain : IncludeChain) (folder path : String) :
    enter (options.setting d.toStore) chain folder path =
      enter (options.setting files.toStore) chain folder path := by
  let disk := options.setting d.toStore
  let memory := options.setting files.toStore
  have hcanonical : disk.store.canonicalFolder = memory.store.canonicalFolder :=
    funext h.canonicalFolder_eq
  have hload :
      Manifest.load disk.store disk.compiler = Manifest.load memory.store memory.compiler :=
    funext (h.load_eq hf ho)
  show enter disk chain folder path = enter memory chain folder path
  rw [enter, enter, hcanonical, hload]
  rfl

/-- A frame comes to the same. By induction on the folders that are not yet on the chain. -/
lemma outcome_same (f : Frame) :
    d.SameUnlessDenied (f.outcome (options.setting d.toStore))
      (f.outcome (options.setting files.toStore)) := by
  refine SameUnlessDenied.performAll fun a _ => ?_
  by_cases ha : ∃ path, a = .folder path
  · obtain ⟨path, rfl⟩ := ha
    rw [Frame.perform_folder, Frame.perform_folder, ← h.enter_eq hf ho]
    cases he : enter (options.setting d.toStore) f.chain f.manifest.folder path with
    | error e => exact .refl _
    | ok p =>
      have := length_unvisited_lt he
      exact outcome_same ⟨p.1, p.2, []⟩
  · exact h.perform_same hf f.chain f.manifest.folder fun path he => ha ⟨path, he⟩
termination_by (unvisited d.toStore f.chain).length

/-- A skeleton comes to the same. -/
lemma generate_same :
    d.SameUnlessDenied (generate d.toStore options) (generate files.toStore options) := by
  have hdone : d.SameUnlessDenied (Resolve.done (generate d.toStore options))
      (Resolve.done (generate files.toStore options)) := by
    rw [done_generate, done_generate, h.load_eq hf ho]
    refine (SameUnlessDenied.refl _).bind fun m => (SameUnlessDenied.refl _).bind fun globals => ?_
    rw [Frame.done_document, Frame.done_document]
    have hcanonical : (options.setting d.toStore).store.canonicalFolder m.folder =
        (options.setting files.toStore).store.canonicalFolder m.folder :=
      h.canonicalFolder_eq m.folder
    rw [hcanonical]
    exact (SameUnlessDenied.refl _).bind fun top => h.outcome_same hf ho ⟨.root top, m, globals⟩
  rcases hdone with he | ⟨path, reason, hd, hdisk, hmemory⟩
  · cases hdoc : generate d.toStore options with
    | ok doc => exact .inl (generate_keptBy (h.setting_keptBy hf ho) doc hdoc).symm
    | error e =>
      rw [hdoc, done_error] at he
      exact .inl (done_eq_error_iff.mp he.symm).symm
  · exact .inr ⟨path, reason, hd, done_eq_error_iff.mp hdisk, done_eq_error_iff.mp hmemory⟩

end Regular

/-- A folder on disk and files in memory give the same answers, but for paths that the system
denies and for lists of paths whose normal form begins with a drive. -/
structure Agrees (d : Disk) (files : MemoryFiles) : Prop where
  isFile (path : String) : d.isFile path = files.isFile path
  canonicalFolder (folder : String) :
    d.canonicalFolder folder = files.toStore.canonicalFolder folder
  read {path : String} (hd : ∀ reason, ¬ d.Denies path reason) : d.read path = files.read path
  /-- What the system denies is no file in memory. -/
  denied {path : String} {reason : OsError} (hd : d.Denies path reason) :
    d.read path = .error (.io reason) ∧ files.read path = .error (.assetNotFound path)
  list {path : String}
    (hn : ∀ normal, normalizePath path = .ok normal → Path.hasDrive normal.toList = false) :
    d.list path = files.list path
  /-- Such a list is refused on disk only. -/
  drive {path normal : String} (hn : normalizePath path = .ok normal)
    (hd : Path.hasDrive normal.toList = true) :
    d.list path = .error (.invalidPath ⟨normal, .absolute⟩) ∧
      ∃ paths, files.list path = .ok paths
  /-- A skeleton gives the same from either, also the same failure, unless what it fails on is
  denied. -/
  generate {options : Options} (ho : ∀ compiler ∈ options.compiler, compiler.IgnoresFolder) :
    generate d.toStore options = generate files.toStore options ∨
      ∃ path reason, d.Denies path reason ∧ generate d.toStore options = .error (.io reason) ∧
        generate files.toStore options = .error (.assetNotFound path)

end Disk

/-- **A folder on disk and the same files in memory agree**, but for paths that the system denies
and for lists of paths that begin with a drive. -/
theorem agrees_of_holds {d : Disk} {t : FileTree} {files : MemoryFiles} (h : d.Regular t)
    (hf : files.Holds t) : d.Agrees files where
  isFile := h.isFile_eq hf
  canonicalFolder := h.canonicalFolder_eq
  read := h.read_eq hf
  denied := h.read_of_denies hf
  list := h.list_eq hf
  drive hn hd := by
    refine ⟨Disk.list_of_hasDrive hn hd, ?_⟩
    show ∃ paths, files.list _ = .ok paths
    rw [MemoryFiles.list, hn]
    exact ⟨_, rfl⟩
  generate := h.generate_same hf

/-- A folder with a manifest beside a file. -/
def Disk.beside (manifest : String) : Disk :=
  ⟨.folder [(Disk.fileName "a.png".toList, .file "x".toUTF8),
    (Disk.fileName "collagen.json".toList, .file manifest.toUTF8)], []⟩

lemma Disk.regular_beside (manifest : String) :
    (beside manifest).Regular (beside manifest).tree where
  root := rfl
  distinct := by
    refine ⟨?_, trivial, trivial, trivial⟩
    show [fileName "a.png".toList, fileName "collagen.json".toList].Nodup
    decide
  plain := ⟨trivial, trivial, trivial⟩
  named := by
    intro place hp
    have hp : place ∈ [["a.png".toList].map fileName, ["collagen.json".toList].map fileName] := hp
    simp only [List.mem_cons, List.not_mem_nil, or_false] at hp
    rcases hp with rfl | rfl
    · exact ⟨["a.png".toList], by decide, rfl⟩
    · exact ⟨["collagen.json".toList], by decide, rfl⟩
  short := by
    show ∀ place ∈ [["a.png".toList].map fileName, ["collagen.json".toList].map fileName, []], _
    decide +kernel
  opened := by
    show ∀ place ∈ [["a.png".toList].map fileName, ["collagen.json".toList].map fileName, []],
      FileTree.checkPath (FileTree.absolutePath ([] ++ place)) = .ok ()
    simp only [FileTree.checkPath_eq_ok]
    decide +kernel

/-- The same files in memory. -/
def MemoryFiles.beside (manifest : String) : MemoryFiles :=
  Catalog.insert (.ofList [("a.png", "x".toUTF8)]) "collagen.json" manifest.toUTF8

lemma MemoryFiles.holds_beside (manifest : String) :
    (beside manifest).Holds (Disk.beside manifest).tree := by
  intro key content
  have hfind : (beside manifest).find? key =
      if key = "collagen.json" then some manifest.toUTF8
      else if key = "a.png" then some "x".toUTF8 else none := by
    rw [beside, Catalog.find?_insert]
    refine if_congr Iff.rfl rfl ?_
    exact Catalog.find?_insert ..
  rw [hfind]
  constructor
  · intro h
    split at h
    · next hk =>
      obtain rfl := Option.some.inj h
      exact ⟨["collagen.json".toList], hk, rfl⟩
    · split at h
      · next hk =>
        obtain rfl := Option.some.inj h
        exact ⟨["a.png".toList], hk, rfl⟩
      · cases h
  · rintro ⟨names, rfl, hx⟩
    have hm := (FileTree.mem_files_iff (Disk.regular_beside manifest).distinct).mpr ⟨content, hx⟩
    have hm : names.map Disk.fileName ∈
        [["a.png".toList].map Disk.fileName, ["collagen.json".toList].map Disk.fileName] := hm
    simp only [List.mem_cons, List.not_mem_nil, or_false] at hm
    rcases hm with hm | hm
    · obtain rfl := List.map_injective_iff.mpr Disk.fileName_injective hm
      exact congrArg some (FileTree.file.inj (Option.some.inj hx))
    · obtain rfl := List.map_injective_iff.mpr Disk.fileName_injective hm
      exact congrArg some (FileTree.file.inj (Option.some.inj hx))

/-- A manifest that shows the image beside it. -/
def imageShown : String := "\x7b\"image_path\":\"./a.png\"\x7d"

theorem agrees_imageShown :
    (Disk.beside imageShown).read "b/../a.png" = (MemoryFiles.beside imageShown).read "b/../a.png" ∧
      (Disk.beside imageShown).list "./." = .ok ["a.png", "collagen.json"] ∧
      ∃ doc, generate (Disk.beside imageShown).toStore (.bare none) = .ok doc ∧
        generate (MemoryFiles.beside imageShown).toStore (.bare none) = .ok doc := by
  have h := agrees_of_holds (Disk.regular_beside imageShown) (MemoryFiles.holds_beside imageShown)
  refine ⟨?_, ?_, ?_⟩
  · refine h.read fun reason hd => ?_
    have hread : (Disk.beside imageShown).read "b/../a.png" = .ok "x".toUTF8 := by rfl
    cases hread.symm.trans (h.denied hd).1
  · have hlist : (MemoryFiles.beside imageShown).list "./." = .ok ["a.png", "collagen.json"] := by
      decide +kernel
    refine (h.list fun normal hn => ?_).trans hlist
    obtain rfl := Except.ok.inj (hn.symm.trans (show normalizePath "./." = .ok "" from rfl))
    rfl
  · obtain ⟨doc, hdoc, -⟩ := exists_of_any (p := fun _ => true)
      (x := generate (Disk.beside imageShown).toStore (.bare none)) (by decide +kernel)
    have hignores : ∀ compiler ∈ (Options.bare none).compiler, compiler.IgnoresFolder := by
      simp [Options.bare]
    refine ⟨doc, hdoc, ?_⟩
    rcases h.generate hignores with he | ⟨path, reason, -, hdisk, -⟩
    · exact he.symm.trans hdoc
    · cases hdoc.symm.trans hdisk

/-- A manifest that shows what is no file, but would be inside one. -/
def insideShown : String := "\x7b\"image_path\":\"a.png/b\"\x7d"

/-- What is inside a file is not just missing on disk, and a list may be refused there. -/
theorem disagrees_insideShown :
    (Disk.beside insideShown).Regular (Disk.beside insideShown).tree ∧
      (MemoryFiles.beside insideShown).Holds (Disk.beside insideShown).tree ∧
      (Disk.beside insideShown).read "a.png/b" = .error (.io .notFolder) ∧
      (MemoryFiles.beside insideShown).read "a.png/b" = .error (.assetNotFound "a.png/b") ∧
      (Disk.beside insideShown).list "./c:" = .error (.invalidPath ⟨"c:", .absolute⟩) ∧
      (MemoryFiles.beside insideShown).list "./c:" = .ok [] ∧
      generate (Disk.beside insideShown).toStore (.bare none) = .error (.io .notFolder) ∧
      generate (MemoryFiles.beside insideShown).toStore (.bare none) =
        .error (.assetNotFound "a.png/b") := by
  refine ⟨Disk.regular_beside _, MemoryFiles.holds_beside _, ?_, ?_, ?_, ?_, ?_, ?_⟩
  · exact Resolve.done_eq_error_iff.mp (by decide +kernel)
  · exact Resolve.done_eq_error_iff.mp (by decide +kernel)
  · decide +kernel
  · decide +kernel
  · exact Resolve.done_eq_error_iff.mp (by decide +kernel)
  · exact Resolve.done_eq_error_iff.mp (by decide +kernel)

end SvgSkeleton
