import SvgSkeleton.Proofs.FolderTree
import SvgSkeleton.Proofs.Spelling
import SvgSkeleton.Store.Disk

/-!
Paths of a folder on disk. Names have a path and are found by it at their own place, if there is no
link on the way to it.
-/

namespace SvgSkeleton

lemma Text.decode?_bytesOf (s : String) : decode? ⟨(bytesOf s).toArray⟩ = some s := by
  show String.fromUTF8? s.toByteArray = some s
  unfold String.fromUTF8?
  rw [dif_pos s.isValidUTF8]
  rfl

namespace Path

/-- The path of names. -/
def ofNames (names : List Segment) : String := String.ofList (ofSegments names)

lemma intercalate_slash (names : List Segment) :
    String.intercalate "/" (names.map String.ofList) = ofNames names := by
  induction names with
  | nil => rfl
  | cons s rest ih =>
    cases rest with
    | nil => simp [ofNames, ofSegments]
    | cons t rest =>
      rw [List.map_cons, List.map_cons, String.intercalate_cons_cons, ← List.map_cons, ih]
      apply String.toList_injective
      simp [ofNames, ofSegments]

/-- Names that can be written in a path: none of them is special or holds a separator, and the path
does not begin with a drive. -/
structure Writable (names : List Segment) : Prop where
  ordinary : ∀ s ∈ names, Ordinary s
  backslash : ∀ s ∈ names, '\\' ∉ s
  drive : hasDrive (ofSegments names) = false

instance (s : Segment) : Decidable (Ordinary s) :=
  decidable_of_iff (staysHere s = false ∧ goesUp s = false ∧ '/' ∉ s)
    ⟨fun ⟨hs, hu, h⟩ => ⟨hs, hu, h⟩, fun ⟨hs, hu, h⟩ => ⟨hs, hu, h⟩⟩

instance (names : List Segment) : Decidable (Writable names) :=
  decidable_of_iff ((∀ s ∈ names, Ordinary s) ∧ (∀ s ∈ names, '\\' ∉ s) ∧
      hasDrive (ofSegments names) = false)
    ⟨fun ⟨ho, hb, hd⟩ => ⟨ho, hb, hd⟩, fun ⟨ho, hb, hd⟩ => ⟨ho, hb, hd⟩⟩

lemma Writable.resolve {names : List Segment} (h : Writable names) :
    resolve (ofNames names).toList = .ok names := by
  rw [ofNames, String.toList_ofList]
  exact resolve_ofSegments_of_ordinary (fun s hs => ⟨h.ordinary s hs, h.backslash s hs⟩) h.drive

lemma normalize_of_resolve {path : String} {names : List Segment}
    (h : Path.resolve path.toList = .ok names) : normalize path = .ok (ofNames names) := by
  rw [normalize, h]
  rfl

lemma normalizePath_of_resolve {path : String} {names : List Segment}
    (h : Path.resolve path.toList = .ok names) : normalizePath path = .ok (ofNames names) := by
  rw [normalizePath, normalize_of_resolve h]
  rfl

/-- The path of names determines them. -/
lemma ofNames_injective {names others : List Segment} (h : ∀ s ∈ names, Ordinary s)
    (ho : ∀ s ∈ others, Ordinary s) (he : ofNames names = ofNames others) : names = others := by
  have he : ofSegments names = ofSegments others := by
    simpa only [ofNames, String.toList_ofList] using congrArg String.toList he
  have walked : ∀ {l : List Segment}, (∀ s ∈ l, Ordinary s) →
      walk [] (segments (ofSegments l)) = some l.reverse := by
    intro l hl
    by_cases hn : l = []
    · subst hn
      rfl
    · rw [segments_ofSegments hn fun s hs => (hl s hs).slash, walk_ordinary hl, List.append_nil]
  have := (walked h).symm.trans ((congrArg _ (congrArg _ he)).trans (walked ho))
  exact List.reverse_injective (Option.some.inj this)

end Path

namespace Disk

variable {d : Disk} {names : List Path.Segment}

/-- The place of names inside the folder. -/
def placeOf (d : Disk) (names : List Path.Segment) : Place := d.root ++ names.map fileName

lemma fileName_injective : Function.Injective fileName := by
  intro s u h
  have h := congrArg (fun name => Text.decode? ⟨name.toArray⟩) h
  simp only [fileName, Text.decode?_bytesOf, Option.some.injEq] at h
  simpa only [String.toList_ofList] using congrArg String.toList h

lemma pathOf_placeOf (d : Disk) (names : List Path.Segment) :
    d.pathOf (d.placeOf names) = .ok (Path.ofNames names) := by
  have hm : (names.map fileName).mapM (fun name => Text.decode? ⟨name.toArray⟩)
      = some (names.map String.ofList) := by
    induction names with
    | nil => rfl
    | cons s rest ih =>
      rw [List.map_cons, List.mapM_cons, ih, fileName, Text.decode?_bytesOf]
      rfl
  rw [pathOf, placeOf, List.drop_left, hm]
  exact congrArg _ (Path.intercalate_slash names)

lemma at?_placeOf {t : FileTree} (h : d.tree.at? d.root = some t) (names : List Path.Segment) :
    d.tree.at? (d.placeOf names) = t.at? (names.map fileName) := by
  rw [placeOf, FileTree.at?_append, h, Option.bind_some]

/-- No link stands on the way to the names from the folder. -/
def Direct (d : Disk) (names : List Path.Segment) : Prop :=
  d.tree.NoLink d.root (names.map fileName)

lemma direct_of_plain {t : FileTree} (h : d.tree.at? d.root = some t) (hp : t.Plain)
    (names : List Path.Segment) : d.Direct names := by
  rintro way - target hx
  rw [FileTree.at?_append, h] at hx
  exact FileTree.plain_of_at? hp hx

/-- What is found on a way without links is found at its own place. -/
lemma follow_eq_ok {found : Found} (hd : d.Direct names) (h : d.follow names = .ok found) :
    found = ⟨d.placeOf names, d.placeOf names⟩ := by
  have ends : ∀ {bound : Option Nat} {place : List FileName} {left : Nat},
      d.tree.walk bound FileTree.linkLimit d.root.reverse ((names.map fileName).map .down)
        = .ok (place, left) → place.reverse = d.placeOf names := by
    intro bound place left hw
    have := FileTree.walk_down (by rwa [List.reverse_reverse]) hw
    simp [this, placeOf]
  simp only [follow] at h
  split at h
  · next place left hw =>
    obtain rfl := Except.ok.inj h
    rw [ends hw]
  · split at h
    · next place left _ hw =>
      obtain rfl := Except.ok.inj h
      rw [ends hw]
      rfl
    · cases h
    · cases h

/-- A file or folder whose path can be walked is found at its own place. -/
lemma follow_eq {x : FileTree} (hx : d.tree.at? (d.placeOf names) = some x)
    (hl : ∀ target, x ≠ .link target) (hs : ∀ s ∈ names, (fileName s).length ≤ FileTree.nameLimit)
    (ho : FileTree.checkPath (FileTree.absolutePath (d.placeOf names)) = .ok ()) :
    d.follow names = .ok ⟨d.placeOf names, d.placeOf names⟩ := by
  rw [placeOf, FileTree.at?_append, Option.bind_eq_some_iff] at hx
  obtain ⟨t, hr, hx⟩ := hx
  have hlen : FileTree.pathLength (d.placeOf names) < FileTree.pathLimit :=
    Nat.lt_of_le_of_lt (FileTree.pathLength_le_absolutePath _) (FileTree.checkPath_eq_ok.mp ho).2.2
  have hroot : d.tree.at? d.root.reverse.reverse = some t := by rwa [List.reverse_reverse]
  have hb : ∀ n ∈ some FileTree.pathLimit,
      FileTree.pathLength ((names.map fileName).reverse ++ d.root.reverse) < n := by
    rintro n ⟨⟩
    rwa [← List.reverse_append, FileTree.pathLength_reverse]
  have hw := FileTree.walk_to hroot hx hl (by simpa using hs) hb FileTree.linkLimit
  simp only [follow, hw]
  simp [placeOf]

/-- Where a walk fails, names lead to nothing, for the reason that their path or the walk gives. -/
lemma follow_of_walk_eq_error {reason : OsError}
    (h : d.tree.walk none FileTree.linkLimit d.root.reverse ((names.map fileName).map .down)
      = .error reason) :
    d.follow names = FileTree.checkPath (FileTree.absolutePath (d.placeOf names)) >>= fun _ =>
      .error reason := by
  cases hs : d.tree.walk (some FileTree.pathLimit) FileTree.linkLimit d.root.reverse
      ((names.map fileName).map .down) with
  | ok r =>
    rw [FileTree.walk_of_fits d.tree.fits_none hs] at h
    cases h
  | error other =>
    simp only [follow, hs, h]
    rw [← placeOf]
    cases FileTree.checkPath (FileTree.absolutePath (d.placeOf names)) <;> rfl

lemma find_eq {path : String} (hr : Path.resolve path.toList = .ok names)
    (hf : d.follow names = .ok ⟨d.placeOf names, d.placeOf names⟩) :
    d.find path = .ok (.ok ⟨d.placeOf names, d.placeOf names⟩) := by
  have hp : d.root.isPrefixOf (d.placeOf names) = true :=
    List.isPrefixOf_iff_prefix.mpr (List.prefix_append ..)
  simp [find, hr, hf, hp]

lemma find_eq_error {path : String} {reason : OsError} (hr : Path.resolve path.toList = .ok names)
    (hf : d.follow names = .error reason) : d.find path = .ok (.error reason) := by
  simp [find, hr, hf]

/-- No link stands on the way to what a path names. -/
def AvoidsLinks (d : Disk) (path : String) : Prop :=
  ∀ names, Path.resolve path.toList = .ok names → d.Direct names

lemma find_eq_ok_of_avoidsLinks {path : String} {found : Found} (ha : d.AvoidsLinks path)
    (h : d.find path = .ok (.ok found)) :
    ∃ names, Path.resolve path.toList = .ok names ∧
      found = ⟨d.placeOf names, d.placeOf names⟩ := by
  obtain ⟨names, hr, hf⟩ := find_eq_ok h
  exact ⟨names, hr, follow_eq_ok (ha names hr) hf⟩

lemma exists_found_of_isFile {path : String} (h : d.isFile path = true) :
    ∃ found, d.find path = .ok (.ok found) ∧
      ∃ content, d.tree.at? found.place = some (.file content) := by
  unfold isFile at h
  split at h
  · next found hf =>
    refine ⟨found, hf, ?_⟩
    rw [FileTree.isFileAt, Option.any_eq_true] at h
    obtain ⟨x, hx, hfile⟩ := h
    cases x with
    | file content => exact ⟨content, hx⟩
    | _ => cases hfile
  · cases h

lemma exists_found_of_read {path : String} {content : ByteArray} (h : d.read path = .ok content) :
    ∃ found, d.find path = .ok (.ok found) ∧ d.tree.contentAt found.place = .ok content := by
  obtain ⟨o, hf, h⟩ := bind_eq_ok_iff.mp h
  split at h
  · cases h
  · cases h
  · next found =>
    refine ⟨found, hf, ?_⟩
    split at h
    · next got hg =>
      obtain rfl := Except.ok.inj h
      exact hg
    · cases h

/-- A list is empty, or holds the paths of the files under what is found. -/
lemma list_eq_ok {path : String} {paths : List String} (h : d.list path = .ok paths) :
    ∃ normal, normalizePath path = .ok normal ∧
      (paths = [] ∨ ∃ found x listed, d.find normal = .ok (.ok found) ∧
        d.tree.at? found.place = some x ∧
        x.files.mapM (fun inner => d.pathOf (found.names ++ inner)) = .ok listed ∧
        paths = listed.mergeSort fun a b => decide (a ≤ b)) := by
  obtain ⟨normal, hn, h⟩ := bind_eq_ok_iff.mp h
  obtain ⟨o, hf, h⟩ := bind_eq_ok_iff.mp h
  refine ⟨normal, hn, ?_⟩
  cases o with
  | error reason => exact .inl (Except.ok.inj h).symm
  | ok found =>
    cases hx : d.tree.at? found.place with
    | none =>
      simp only [hx] at h
      exact .inl (Except.ok.inj h).symm
    | some x =>
      simp only [hx] at h
      obtain ⟨-, -, h⟩ := bind_eq_ok_iff.mp h
      obtain ⟨listed, hl, h⟩ := bind_eq_ok_iff.mp h
      exact .inr ⟨found, x, listed, hf, hx, hl, (Except.ok.inj h).symm⟩

end Disk
end SvgSkeleton
