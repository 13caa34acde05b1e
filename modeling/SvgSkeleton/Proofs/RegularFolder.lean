import Mathlib.Data.Set.List
import SvgSkeleton.Proofs.DiskPaths

/-!
Folders in which everything can be opened. Where there are only files and folders, names lead to
what stands at their place; where nothing stands they lead to nothing, and the reason is the first
thing on the way that stops a walk. The list of a folder holds the paths of the files under it, each
once.
-/

namespace SvgSkeleton.Disk

/-- The folder holds a tree in which all files and folders can be opened. The names of files are
texts, and names in one folder are different. -/
structure Listable (d : Disk) (t : FileTree) : Prop where
  root : d.tree.at? d.root = some t
  distinct : t.Distinct
  named : ∀ place ∈ t.files,
    ∃ names : List Path.Segment, (∀ s ∈ names, Path.Ordinary s) ∧ place = names.map fileName
  opened : ∀ place ∈ t.files ++ t.folders,
    FileTree.checkPath (FileTree.absolutePath (d.root ++ place)) = .ok ()

/-- There are only files and folders in that tree. As on any disk, no name is too long. -/
structure Regular (d : Disk) (t : FileTree) : Prop extends Listable d t where
  plain : t.Plain
  short : ∀ place ∈ t.files ++ t.folders, ∀ name ∈ place, name.length ≤ FileTree.nameLimit

namespace Listable

variable {d : Disk} {t x : FileTree} {names : List Path.Segment} {content : ByteArray}
  (h : d.Listable t)
include h

/-- The names at which a file stands are ordinary. -/
lemma ordinary_of_at? (hx : t.at? (names.map fileName) = some (.file content)) :
    ∀ s ∈ names, Path.Ordinary s := by
  obtain ⟨others, ho, he⟩ := h.named _ ((FileTree.mem_files_iff h.distinct).mpr ⟨content, hx⟩)
  obtain rfl := List.map_injective_iff.mpr fileName_injective he
  exact ho

/-- The files under a place are named from there. -/
lemma exists_rests (hx : t.at? (names.map fileName) = some x) :
    ∃ rests : List (List Path.Segment), x.files = rests.map (List.map fileName) ∧
      ∀ rest ∈ rests, ∀ s ∈ names ++ rest, Path.Ordinary s := by
  have hbelow {place : Place} (hp : place ∈ x.files) :
      ∃ content, t.at? (names.map fileName ++ place) = some (.file content) := by
    have hdistinct := FileTree.distinct_of_at? h.distinct hx
    obtain ⟨content, hplace⟩ := (FileTree.mem_files_iff hdistinct).mp hp
    exact ⟨content, by rw [FileTree.at?_append, hx, Option.bind_some, hplace]⟩
  have hfiles : x.files ∈ Set.range (List.map (List.map fileName)) := by
    rw [Set.range_list_map]
    intro place hp
    obtain ⟨all, -, he⟩ := h.named _ ((FileTree.mem_files_iff h.distinct).mpr (hbelow hp))
    obtain ⟨way, rest, rfl, -, hrest⟩ := List.map_eq_append_iff.mp he.symm
    exact ⟨rest, hrest⟩
  obtain ⟨rests, hrests⟩ := hfiles
  refine ⟨rests, hrests.symm, fun rest hr => ?_⟩
  obtain ⟨content, hx⟩ := hbelow (hrests ▸ List.mem_map_of_mem hr : rest.map fileName ∈ x.files)
  rw [← List.map_append] at hx
  exact h.ordinary_of_at? hx

/-- The folders under a place can be opened. -/
lemma checkListed_eq (hx : t.at? (names.map fileName) = some x) :
    x.folders.forM (fun inner => checkListed (d.placeOf names ++ inner)) = .ok ⟨⟩ := by
  refine forM_eq_ok fun inner hi => ?_
  obtain ⟨entries, hinner⟩ :=
    (FileTree.mem_folders_iff (FileTree.distinct_of_at? h.distinct hx)).mp hi
  have hall : names.map fileName ++ inner ∈ t.folders := by
    refine (FileTree.mem_folders_iff h.distinct).mpr ⟨entries, ?_⟩
    rw [FileTree.at?_append, hx, Option.bind_some, hinner]
  rw [checkListed, placeOf, List.append_assoc, h.opened _ (List.mem_append_right _ hall)]
  rfl

/-- A file under a place has its path, once. -/
lemma exists_paths (hx : t.at? (names.map fileName) = some x) :
    ∃ paths : List String,
      x.files.mapM (fun inner => d.pathOf (d.placeOf names ++ inner)) = .ok paths ∧
      paths.Nodup ∧ ∀ p, p ∈ paths ↔ ∃ rest content, p = Path.ofNames (names ++ rest) ∧
        t.at? ((names ++ rest).map fileName) = some (.file content) := by
  obtain ⟨rests, hrests, hord⟩ := h.exists_rests hx
  have hdistinct := FileTree.distinct_of_at? h.distinct hx
  have hbelow (rest : List Path.Segment) :
      t.at? ((names ++ rest).map fileName) = x.at? (rest.map fileName) := by
    rw [List.map_append, FileTree.at?_append, hx, Option.bind_some]
  refine ⟨rests.map fun rest => Path.ofNames (names ++ rest), ?_, ?_, fun p => ?_⟩
  · rw [hrests, mapM_eq_ok_iff, List.forall₂_map_left_iff, List.forall₂_map_right_iff,
      List.forall₂_same]
    intro rest _
    rw [← d.pathOf_placeOf, placeOf, placeOf, List.map_append, List.append_assoc]
  · have hnodup : (rests.map (List.map fileName)).Nodup := hrests ▸ FileTree.nodup_files hdistinct
    refine List.Nodup.map_on (fun rest hrest other hother he => ?_) hnodup.of_map
    exact List.append_cancel_left (Path.ofNames_injective (hord _ hrest) (hord _ hother) he)
  · rw [List.mem_map]
    constructor
    · rintro ⟨rest, hrest, rfl⟩
      have hm : rest.map fileName ∈ x.files := hrests ▸ List.mem_map_of_mem hrest
      obtain ⟨content, hc⟩ := (FileTree.mem_files_iff hdistinct).mp hm
      exact ⟨rest, content, rfl, (hbelow rest).trans hc⟩
    · rintro ⟨rest, content, rfl, hc⟩
      have hm := (FileTree.mem_files_iff hdistinct).mpr ⟨content, (hbelow rest).symm.trans hc⟩
      rw [hrests] at hm
      obtain ⟨other, hother, he⟩ := List.mem_map.mp hm
      obtain rfl := List.map_injective_iff.mpr fileName_injective he
      exact ⟨other, hother, rfl⟩

end Listable

/-- Why names lead to nothing: the system does not take their path, or a walk along them is
stopped. -/
inductive Bars (d : Disk) (names : List Path.Segment) (reason : OsError) : Prop
  | path (h : FileTree.checkPath (FileTree.absolutePath (d.placeOf names)) = .error reason)
  | way {way rest : Place} {name : FileName}
      (ho : FileTree.checkPath (FileTree.absolutePath (d.placeOf names)) = .ok ())
      (hn : names.map fileName = way ++ name :: rest)
      (hs : d.tree.Stops (d.root ++ way) name reason)

/-- There is another reason than a missing entry why the system does not open a path. -/
def Denies (d : Disk) (path : String) (reason : OsError) : Prop :=
  reason ≠ .noEntry ∧ ∃ names, Path.resolve path.toList = .ok names ∧ d.Bars names reason

/-- The list of a path is refused if its normal form begins with a drive. -/
lemma list_of_hasDrive {d : Disk} {path normal : String} (hn : normalizePath path = .ok normal)
    (hd : Path.hasDrive normal.toList = true) :
    d.list path = .error (.invalidPath ⟨normal, .absolute⟩) := by
  obtain ⟨names, hr, rfl⟩ := Path.normalize_eq_ok (normalizePath_eq_ok hn)
  rw [String.toList_ofList] at hd
  have hnone : Path.resolve (String.ofList (Path.ofSegments names)).toList = .error .absolute := by
    rw [String.toList_ofList]
    exact Path.resolve_ofSegments_of_hasDrive hr hd
  rw [list, hn]
  simp only [bind, Except.bind, find, hnone]

namespace Regular

variable {d : Disk} {t x : FileTree} {names : List Path.Segment} {path : String}
  {reason : OsError} (h : d.Regular t)
include h

/-! ### Where names lead -/

lemma direct (names : List Path.Segment) : d.Direct names := direct_of_plain h.root h.plain names

lemma mem_of_at? {place : Place} (hx : t.at? place = some x) : place ∈ t.files ++ t.folders :=
  (FileTree.mem_files_or_folders h.distinct h.plain).mpr ⟨x, hx⟩

lemma follow_of_at? (hx : t.at? (names.map fileName) = some x) :
    d.follow names = .ok ⟨d.placeOf names, d.placeOf names⟩ := by
  have hm := h.mem_of_at? hx
  refine follow_eq (by rw [at?_placeOf h.root, hx]) ?_ ?_ (h.opened _ hm)
  · rintro target rfl
    exact FileTree.plain_of_at? h.plain hx
  · exact fun s hs => h.short _ hm _ (List.mem_map_of_mem hs)

/-- Names at whose place nothing stands are stopped on the way there. -/
lemma exists_stops (hx : t.at? (names.map fileName) = none) :
    ∃ way name rest reason, names.map fileName = way ++ name :: rest ∧
      d.tree.Stops (d.root ++ way) name reason ∧
      d.tree.walk none FileTree.linkLimit d.root.reverse ((names.map fileName).map .down)
        = .error reason := by
  refine (FileTree.walk_cases h.root (h.direct names)).resolve_left ?_
  rintro ⟨x, hplace⟩
  cases hx.symm.trans ((at?_placeOf h.root names).symm.trans hplace)

/-- Names lead to what stands at their place, or to nothing if they are barred. -/
lemma follow_cases (names : List Path.Segment) :
    (∃ x, t.at? (names.map fileName) = some x ∧
        d.follow names = .ok ⟨d.placeOf names, d.placeOf names⟩) ∨
      t.at? (names.map fileName) = none ∧
        ∃ reason, d.follow names = .error reason ∧ d.Bars names reason := by
  cases hx : t.at? (names.map fileName) with
  | some x => exact .inl ⟨x, rfl, h.follow_of_at? hx⟩
  | none =>
    obtain ⟨way, name, rest, reason, hn, hs, hw⟩ := h.exists_stops hx
    have hf := follow_of_walk_eq_error hw
    cases ho : FileTree.checkPath (FileTree.absolutePath (d.placeOf names)) with
    | error other =>
      rw [ho] at hf
      exact .inr ⟨rfl, other, hf, .path ho⟩
    | ok =>
      rw [ho] at hf
      exact .inr ⟨rfl, reason, hf, .way ho hn hs⟩

/-- Names that are barred lead to nothing, for that reason. -/
lemma follow_of_bars (hb : d.Bars names reason) : d.follow names = .error reason := by
  cases hb with
  | path ho =>
    cases hx : t.at? (names.map fileName) with
    | some x => cases (h.opened _ (h.mem_of_at? hx)).symm.trans ho
    | none =>
      obtain ⟨way, name, rest, other, -, -, hw⟩ := h.exists_stops hx
      rw [follow_of_walk_eq_error hw, ho]
      rfl
  | @way way rest name ho hn hs =>
    have hdirect : d.tree.NoLink d.root way := fun inner hi =>
      h.direct names inner (hi.trans (hn ▸ List.prefix_append ..))
    have hshort : ∀ s ∈ way, s.length ≤ FileTree.nameLimit := by
      obtain ⟨x, hx⟩ := hs.exists_at?
      rw [FileTree.at?_append, h.root, Option.bind_some] at hx
      exact h.short _ (h.mem_of_at? hx)
    have hw : d.tree.walk none FileTree.linkLimit d.root.reverse ((names.map fileName).map .down)
        = .error reason := by
      rw [hn]
      exact FileTree.walk_of_stops h.root hdirect hshort hs
    rw [follow_of_walk_eq_error hw, ho]
    rfl

/-- A folder is known by the normal form of its path. -/
lemma canonicalFolder_eq (folder : String) : d.canonicalFolder folder = normalizePath folder := by
  cases hr : Path.resolve folder.toList with
  | error fault =>
    simp [canonicalFolder, find, normalizePath, Path.normalize, hr, Except.mapError, bind,
      Except.bind]
  | ok names =>
    rcases h.follow_cases names with ⟨x, hx, hfollow⟩ | ⟨hx, reason, hfollow, hb⟩
    · rw [canonicalFolder, find_eq hr hfollow, Path.normalizePath_of_resolve hr]
      exact d.pathOf_placeOf names
    · rw [canonicalFolder, find_eq_error hr hfollow]
      rfl

/-! ### Lists -/

/-- The list of a folder holds the paths of the files under it, each once. -/
lemma exists_list (hr : Path.resolve path.toList = .ok names)
    (hd : Path.hasDrive (Path.ofSegments names) = false) :
    ∃ paths : List String, d.list path = .ok (paths.mergeSort fun a b => decide (a ≤ b)) ∧
      paths.Nodup ∧ ∀ p, p ∈ paths ↔ ∃ rest content, p = Path.ofNames (names ++ rest) ∧
        t.at? ((names ++ rest).map fileName) = some (.file content) := by
  have hn : Path.resolve (Path.ofNames names).toList = .ok names := by
    rw [Path.ofNames, String.toList_ofList]
    exact Path.resolve_ofSegments_eq hr hd
  have hnormal := Path.normalizePath_of_resolve hr
  rcases h.follow_cases names with ⟨x, hx, hfollow⟩ | ⟨hx, reason, hfollow, -⟩
  · obtain ⟨paths, hpaths, hnodup, hmem⟩ := h.exists_paths hx
    refine ⟨paths, ?_, hnodup, hmem⟩
    rw [list, hnormal]
    simp only [bind, Except.bind, find_eq hn hfollow, at?_placeOf h.root, hx,
      h.checkListed_eq hx, hpaths]
    rfl
  · refine ⟨[], ?_, List.nodup_nil, fun p => iff_of_false List.not_mem_nil ?_⟩
    · rw [list, hnormal, List.mergeSort_nil]
      simp only [bind, Except.bind, find_eq_error hn hfollow]
      rfl
    · rintro ⟨rest, content, -, hrest⟩
      rw [List.map_append, FileTree.at?_append, hx] at hrest
      cases hrest

end Regular

end SvgSkeleton.Disk
