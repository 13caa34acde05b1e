import SvgSkeleton.Proofs.Confinement
import SvgSkeleton.Proofs.FileMap

/-!
What a folder on disk lists. The files under a folder are listed from where the folder really is. So
the paths are those asked for exactly if the folder is known by the normal form of its path, and no
link was followed to it. The names of files are taken as they are on disk; a path with a backslash,
or with a drive in front, is listed all the same, though it can never be read.
-/

namespace SvgSkeleton.Disk

variable {d : Disk} {folder key q : String} {paths : List String}
  {names all base rest : List Path.Segment} {found : Found} {inner : Place}

/-! ### The paths of places -/

lemma mem_bytesOf_of_slash {s : Path.Segment} (h : '/' ∈ s) :
    0x2F ∈ Text.bytesOf (String.ofList s) := by
  rw [Text.bytesOf_eq_flatMap, String.toList_ofList]
  exact List.mem_flatMap.mpr ⟨'/', h, by decide⟩

/-- A name that a step goes down to is an ordinary one. -/
lemma ordinary_of_proper {s : Path.Segment} (h : FileTree.Proper (fileName s)) :
    Path.Ordinary s := by
  obtain ⟨hstep, hslash, -⟩ := h
  have hne (special : Path.Segment)
      (hs : FileTree.Step.ofName (fileName special) ≠ .down (fileName special)) : s ≠ special := by
    rintro rfl
    exact hs hstep
  refine ⟨?_, ?_, fun hm => hslash (mem_bytesOf_of_slash hm)⟩
  · simp [Path.staysHere, hne [] (by decide), hne ['.'] (by decide)]
  · simp [Path.goesUp, hne ['.', '.'] (by decide)]

/-- A place that has a path is that of names. -/
lemma exists_of_pathOf {place : Place} (hp : d.root <+: place) (h : d.pathOf place = .ok q) :
    ∃ names, place = d.placeOf names ∧ q = Path.ofNames names := by
  obtain ⟨below, rfl⟩ := hp
  rw [pathOf, List.drop_left] at h
  split at h
  · next texts htexts =>
    obtain rfl := Except.ok.inj h
    have hnames : (texts.map String.toList).map String.ofList = texts := by simp
    refine ⟨texts.map String.toList, ?_, ?_⟩
    · rw [placeOf, ← Text.map_bytesOf_of_mapM htexts]
      simp [fileName, Function.comp_def]
    · rw [← Path.intercalate_slash, hnames]
  · cases h

lemma placeOf_injective (d : Disk) : Function.Injective d.placeOf := fun _ _ h =>
  List.map_injective_iff.mpr fileName_injective (List.append_cancel_left h)

lemma placeOf_append (names rest : List Path.Segment) :
    d.placeOf (names ++ rest) = d.placeOf names ++ rest.map fileName := by
  rw [placeOf, placeOf, List.map_append, List.append_assoc]

/-- The paths under that of names are those of the names that begin with them. -/
lemma under_ofNames_iff (hn : ∀ s ∈ names, Path.Ordinary s) (ha : ∀ s ∈ all, Path.Ordinary s) :
    Path.Under (Path.ofNames names) (Path.ofNames all) ↔ names <+: all := by
  rw [← MemoryFiles.under_iff, Path.ofNames, Path.ofNames, String.toList_ofList,
    String.toList_ofList, MemoryFiles.isUnder_ofSegments_iff hn ha]

/-! ### What is found -/

/-- Names lead to a place for which no short path could be found out; it is opened by the names as
they are given. -/
structure OpenedAsGiven (d : Disk) (names : List Path.Segment) (found : Found) : Prop where
  names_eq : found.names = d.placeOf names
  notShort : ∃ reason, d.tree.walk (some FileTree.pathLimit) FileTree.linkLimit d.root.reverse
    ((names.map fileName).map .down) = .error reason
  reaches : d.Reaches ((names.map fileName).map .down) found.place

lemma follow_eq_ok_cases (h : d.follow names = .ok found) :
    found.names = found.place ∨ d.OpenedAsGiven names found := by
  simp only [follow] at h
  split at h
  · obtain rfl := Except.ok.inj h
    exact .inl rfl
  · next reason hshort =>
    split at h
    · next place left _ hw =>
      obtain rfl := Except.ok.inj h
      exact .inr ⟨rfl, ⟨reason, hshort⟩, left, by rwa [List.reverse_reverse]⟩
    · cases h
    · cases h

lemma prefix_of_find {path : String} (h : d.find path = .ok (.ok found)) :
    d.root <+: found.names := by
  unfold find at h
  split at h
  · cases h
  · split at h
    · cases h
    · split at h
      · next hp =>
        obtain rfl := Except.ok.inj (Except.ok.inj h)
        exact List.isPrefixOf_iff_prefix.mp hp
      · cases h

/-- A file below what names lead to: the names by which that is opened, and those from there on. -/
structure Below (d : Disk) (names : List Path.Segment) (found : Found)
    (base rest : List Path.Segment) (content : ByteArray) : Prop where
  follow : d.follow names = .ok found
  names_eq : found.names = d.placeOf base
  file : d.tree.at? (found.place ++ rest.map fileName) = some (.file content)

namespace Below

variable {content : ByteArray} (h : d.Below names found base rest content)
include h

lemma base_eq (hgiven : d.OpenedAsGiven names found) : base = names :=
  d.placeOf_injective (h.names_eq.symm.trans hgiven.names_eq)

lemma file_of_canonical (hcanonical : found.names = found.place) :
    d.tree.at? (d.placeOf (base ++ rest)) = some (.file content) := by
  rw [placeOf_append, ← h.names_eq, hcanonical]
  exact h.file

/-- If what is opened is under the names, it is opened by these names: there is no link on the way
to a file by its own place. -/
lemma prefix_iff : names <+: base ++ rest ↔ base = names := by
  constructor
  · rintro ⟨more, hmore⟩
    rcases follow_eq_ok_cases h.follow with hcanonical | hgiven
    · have hfile := h.file_of_canonical hcanonical
      rw [← hmore, placeOf, FileTree.at?_append, Option.bind_eq_some_iff] at hfile
      obtain ⟨root, hroot, hfile⟩ := hfile
      have hdirect : d.Direct names := fun way hway =>
        FileTree.noLink_of_at? hroot hfile (by simp) way
          (hway.trans (List.map_append (f := fileName) ▸ List.prefix_append ..))
      have hnames := h.names_eq
      rw [follow_eq_ok hdirect h.follow] at hnames
      exact d.placeOf_injective hnames.symm
    · exact h.base_eq hgiven
  · rintro rfl
    exact List.prefix_append ..

variable (ht : d.tree.WellNamed)
include ht

/-- The names on the way to the file are proper, at least from what is found on. -/
lemma proper :
    (∀ s ∈ rest, FileTree.Proper (fileName s)) ∧
      (found.names = found.place → ∀ s ∈ base ++ rest, FileTree.Proper (fileName s)) := by
  have hproper {place : Place} (hx : d.tree.at? place = some (.file content)) :=
    ht.proper place ((FileTree.mem_files_iff ht.distinct).mpr ⟨content, hx⟩)
  constructor
  · exact fun s hs => hproper h.file _ (List.mem_append_right _ (List.mem_map_of_mem hs))
  · exact fun hcanonical s hs =>
      hproper (h.file_of_canonical hcanonical) _ (List.mem_append_right _ (List.mem_map_of_mem hs))

lemma ordinary (hn : ∀ s ∈ names, Path.Ordinary s) : ∀ s ∈ base ++ rest, Path.Ordinary s := by
  obtain ⟨hrest, hall⟩ := h.proper ht
  intro s hs
  rcases follow_eq_ok_cases h.follow with hcanonical | hgiven
  · exact ordinary_of_proper (hall hcanonical s hs)
  · obtain rfl := h.base_eq hgiven
    rcases List.mem_append.mp hs with hs | hs
    · exact hn s hs
    · exact ordinary_of_proper (hrest s hs)

/-- The file is found by its own names, if its path can be walked. -/
lemma exists_follow
    (ho : FileTree.checkPath (FileTree.absolutePath (d.placeOf (base ++ rest))) = .ok ()) :
    ∃ inner, d.follow (base ++ rest) = .ok inner ∧ d.root <+: inner.names ∧
      d.tree.at? inner.place = some (.file content) := by
  obtain ⟨hrest, hall⟩ := h.proper ht
  rcases follow_eq_ok_cases h.follow with hcanonical | hgiven
  · have hfile := h.file_of_canonical hcanonical
    have hfollow := follow_eq hfile (by simp) (fun s hs => (hall hcanonical s hs).2.2) ho
    exact ⟨_, hfollow, List.prefix_append .., hfile⟩
  · obtain rfl := h.base_eq hgiven
    obtain ⟨reason, hshort⟩ := hgiven.notShort
    obtain ⟨left, hreaches⟩ := hgiven.reaches
    obtain ⟨x, hx, hc⟩ := Option.bind_eq_some_iff.mp (FileTree.at?_append _ _ _ ▸ h.file)
    -- no short path is found out for the longer names either
    have hshort' : d.tree.walk (some FileTree.pathLimit) FileTree.linkLimit d.root.reverse
        (((base ++ rest).map fileName).map .down) = .error reason := by
      rw [List.map_append, List.map_append, FileTree.walk_append, hshort]
      rfl
    have hbelow : d.tree.walk none left found.place.reverse ((rest.map fileName).map .down)
        = .ok ((rest.map fileName).reverse ++ found.place.reverse, left) :=
      FileTree.walk_to (by rwa [List.reverse_reverse]) hc (by simp)
        (by simpa using fun s hs => (hrest s hs).2.2) (by simp) left
    have hlong : d.tree.walk none FileTree.linkLimit d.root.reverse
        (((base ++ rest).map fileName).map .down)
        = .ok ((rest.map fileName).reverse ++ found.place.reverse, left) := by
      rw [List.map_append, List.map_append, FileTree.walk_append, hreaches]
      exact hbelow
    rw [placeOf] at ho
    refine ⟨⟨found.place ++ rest.map fileName, d.placeOf (base ++ rest)⟩, ?_,
      List.prefix_append .., h.file⟩
    simp only [Disk.follow, hshort', ho, hlong]
    simp [placeOf]

/-- Its path is under that of the names exactly if what they lead to is opened by them. -/
lemma under_iff (hn : ∀ s ∈ names, Path.Ordinary s) :
    Path.Under (Path.ofNames names) (Path.ofNames (base ++ rest)) ↔
      d.pathOf found.names = .ok (Path.ofNames names) := by
  have hall := h.ordinary ht hn
  rw [under_ofNames_iff hn hall, h.prefix_iff, h.names_eq, pathOf_placeOf, Except.ok.injEq]
  constructor
  · rintro rfl
    rfl
  · exact Path.ofNames_injective (fun s hs => hall s (List.mem_append_left _ hs)) hn

end Below

lemma exists_below (hp : d.root <+: found.names) (hf : d.follow names = .ok found)
    {content : ByteArray} (hfile : d.tree.at? (found.place ++ inner) = some (.file content))
    (hq : d.pathOf (found.names ++ inner) = .ok q) :
    ∃ base rest, d.Below names found base rest content ∧ inner = rest.map fileName ∧
      q = Path.ofNames (base ++ rest) := by
  obtain ⟨all, hall, rfl⟩ := exists_of_pathOf (hp.trans (List.prefix_append ..)) hq
  obtain ⟨way, hway⟩ := hp
  rw [← hway, placeOf, List.append_assoc, List.append_cancel_left_eq] at hall
  obtain ⟨base, rest, rfl, rfl, rfl⟩ := List.map_eq_append_iff.mp hall.symm
  exact ⟨base, rest, ⟨hf, hway.symm, hfile⟩, rfl, rfl⟩

/-- A list whose path has these names is empty, or holds the paths of files below what they lead
to, each once. -/
lemma exists_below_of_list (ht : d.tree.WellNamed) (hr : Path.resolve folder.toList = .ok names)
    (h : d.list folder = .ok paths) :
    paths = [] ∨ ∃ (found : Found) (listed : List String), d.find folder = .ok (.ok found) ∧
      listed.Nodup ∧ paths = (listed.mergeSort fun a b => decide (a ≤ b)) ∧
      ∀ q ∈ listed, ∃ base rest content, d.Below names found base rest content ∧
        q = Path.ofNames (base ++ rest) := by
  obtain ⟨normal, hn, rfl | ⟨found, x, listed, hfind, hx, hl, rfl⟩⟩ := list_eq_ok h
  · exact .inl rfl
  have hord := Path.ordinary_of_resolve hr
  have hp := prefix_of_find hfind
  have hf : d.follow names = .ok found := by
    obtain rfl := Except.ok.inj ((Path.normalizePath_of_resolve hr).symm.trans hn)
    obtain ⟨got, hgot, hf⟩ := find_eq_ok hfind
    rw [Path.ofNames, String.toList_ofList] at hgot
    obtain rfl := Path.resolve_ofSegments hord hgot
    exact hf
  have hdistinct := FileTree.distinct_of_at? ht.distinct hx
  have hbelow {inner : Place} {q : String} (hi : inner ∈ x.files)
      (hq : d.pathOf (found.names ++ inner) = .ok q) :
      ∃ base rest content, d.Below names found base rest content ∧ inner = rest.map fileName ∧
        q = Path.ofNames (base ++ rest) := by
    obtain ⟨content, hc⟩ := (FileTree.mem_files_iff hdistinct).mp hi
    have hfile : d.tree.at? (found.place ++ inner) = some (.file content) := by
      rw [FileTree.at?_append, hx, Option.bind_some, hc]
    obtain ⟨base, rest, hb, hi, hq⟩ := exists_below hp hf hfile hq
    exact ⟨base, rest, content, hb, hi, hq⟩
  refine .inr ⟨found, listed, ?_, ?_, rfl, fun q hq => ?_⟩
  · simp [find, hr, hf, List.isPrefixOf_iff_prefix.mpr hp]
  · refine nodup_of_mapM_eq_ok hl (FileTree.nodup_files hdistinct) fun a ha a' ha' q hq hq' => ?_
    obtain ⟨base, rest, content, hb, rfl, rfl⟩ := hbelow ha hq
    obtain ⟨base', rest', content', hb', rfl, he⟩ := hbelow ha' hq'
    obtain rfl := d.placeOf_injective (hb.names_eq.symm.trans hb'.names_eq)
    have hall := Path.ofNames_injective (hb.ordinary ht hord) (hb'.ordinary ht hord) he
    rw [List.append_cancel_left hall]
  · obtain ⟨inner, hi, hpath⟩ := (mem_iff_of_mapM_eq_ok hl).mp hq
    obtain ⟨base, rest, content, hb, -, rfl⟩ := hbelow hi hpath
    exact ⟨base, rest, content, hb, rfl⟩

/-! ### Reading what is listed -/

/-- The system takes the path of what has this path inside the folder: it is not too long. -/
def Opens (d : Disk) (q : String) : Prop :=
  ∃ names : List Path.Segment, (∀ s ∈ names, Path.Ordinary s) ∧ q = Path.ofNames names ∧
    FileTree.checkPath (FileTree.absolutePath (d.placeOf names)) = .ok ()

lemma exists_read_of_follow {content : ByteArray} (hr : Path.resolve q.toList = .ok names)
    (hf : d.follow names = .ok found) (hp : d.root <+: found.names)
    (hx : d.tree.at? found.place = some (.file content)) : d.read q = .ok content := by
  have hfind : d.find q = .ok (.ok found) := by
    simp [find, hr, hf, List.isPrefixOf_iff_prefix.mpr hp]
  have hcontent : d.tree.contentAt found.place = .ok content := by
    rw [FileTree.contentAt, hx]
  rw [read, hfind]
  simp only [bind, Except.bind, hcontent]
  rfl

/-- A path with a backslash or with a drive in front is not read, whatever it may name. -/
lemma exists_refusal_of_read (h : '\\' ∈ q.toList ∨ Path.hasDrive q.toList = true) :
    ∃ fault, d.read q = .error (.invalidPath ⟨q, fault⟩) := by
  have hr : ∃ fault, Path.resolve q.toList = .error fault := by
    unfold Path.resolve
    split
    · exact ⟨_, rfl⟩
    · split
      · exact ⟨_, rfl⟩
      · next hb =>
        rw [if_pos (h.resolve_left fun hm => hb (by simpa using hm))]
        exact ⟨_, rfl⟩
  obtain ⟨fault, hr⟩ := hr
  exact ⟨fault, (refused_of_find (find_of_resolve_error hr)).1⟩

lemma writable_of_ordinary (hn : ∀ s ∈ names, Path.Ordinary s)
    (hb : '\\' ∉ (Path.ofNames names).toList)
    (hd : Path.hasDrive (Path.ofNames names).toList = false) : Path.Writable names := by
  rw [Path.ofNames, String.toList_ofList] at hb hd
  refine ⟨hn, fun s hs hm => hb ?_, hd⟩
  rw [← Path.segments_ofSegments (List.ne_nil_of_mem hs) fun s hs => (hn s hs).slash] at hs
  exact Path.mem_of_mem_segments hs _ hm

/-! ### Lists -/

/-- What the list of a folder holds, `key` being the normal form of its path. -/
structure Lists (d : Disk) (folder key : String) (paths : List String) : Prop where
  increasing : paths.Pairwise (Text.bytesOf · < Text.bytesOf ·)
  /-- The paths are under the one by which the folder is known. -/
  under : ∀ q ∈ paths, ∃ inner, d.toStore.canonicalFolder folder = .ok inner ∧ Path.Under inner q
  /-- They are under the one asked for only if that is the same. -/
  under_iff : ∀ q ∈ paths, Path.Under key q ↔ d.toStore.canonicalFolder folder = .ok key
  direct (ha : d.AvoidsLinks folder) : ∀ q ∈ paths, Path.Under key q
  read : ∀ q ∈ paths, d.Opens q → '\\' ∉ q.toList → Path.hasDrive q.toList = false →
    ∃ content, d.toStore.read q = .ok content
  refused : ∀ q ∈ paths, '\\' ∈ q.toList ∨ Path.hasDrive q.toList = true →
    ∃ fault, d.toStore.read q = .error (.invalidPath ⟨q, fault⟩)

lemma lists_nil : d.Lists folder key [] where
  increasing := .nil
  under := by simp
  under_iff := by simp
  direct := by simp
  read := by simp
  refused := by simp

/-- **The list of a folder is in order and names files under the folder, where it really is**: under
the path asked for exactly if the folder is known by that path, as it is if no link stands on the
way to it. What is listed can be read, unless its path has a backslash or a drive in front. -/
theorem lists_of_list (ht : d.tree.WellNamed) (hk : normalizePath folder = .ok key)
    (h : d.toStore.list folder = .ok paths) : d.Lists folder key paths := by
  obtain ⟨names, hr, rfl⟩ := Path.normalize_eq_ok (normalizePath_eq_ok hk)
  have hord := Path.ordinary_of_resolve hr
  obtain rfl | ⟨found, listed, hfind, hnodup, rfl, hlisted⟩ := exists_below_of_list ht hr h
  · exact lists_nil
  have hcanonical : d.toStore.canonicalFolder folder = d.pathOf found.names := by
    show d.canonicalFolder folder = _
    rw [canonicalFolder, hfind]
    rfl
  have hmem (q : String) (hq : q ∈ listed.mergeSort fun a b => decide (a ≤ b)) :=
    hlisted q (List.mem_mergeSort.mp hq)
  have hunder (q : String) (hq : q ∈ listed.mergeSort fun a b => decide (a ≤ b)) :
      Path.Under (Path.ofNames names) q ↔
        d.toStore.canonicalFolder folder = .ok (Path.ofNames names) := by
    obtain ⟨base, rest, content, hb, rfl⟩ := hmem q hq
    rw [hcanonical]
    exact hb.under_iff ht hord
  refine ⟨?_, fun q hq => ?_, hunder, fun ha q hq => ?_, fun q hq ho hb hd => ?_,
    fun q _ => exists_refusal_of_read⟩
  · exact (pairwise_lt_mergeSort hnodup).imp Text.bytesOf_lt_iff.mpr
  · obtain ⟨base, rest, content, hb, rfl⟩ := hmem q hq
    refine ⟨Path.ofNames base, by rw [hcanonical, hb.names_eq, pathOf_placeOf], ?_⟩
    have hall := hb.ordinary ht hord
    exact (under_ofNames_iff (fun s hs => hall s (List.mem_append_left _ hs)) hall).mpr
      (List.prefix_append ..)
  · obtain ⟨got, hgot, rfl⟩ := find_eq_ok_of_avoidsLinks ha hfind
    obtain rfl := Except.ok.inj (hr.symm.trans hgot)
    exact (hunder q hq).mpr (hcanonical.trans (d.pathOf_placeOf names))
  · obtain ⟨base, rest, content, hbelow, rfl⟩ := hmem q hq
    have hall := hbelow.ordinary ht hord
    obtain ⟨others, hothers, he, ho⟩ := ho
    obtain rfl := Path.ofNames_injective hall hothers he
    obtain ⟨inner, hf, hp, hx⟩ := hbelow.exists_follow ht ho
    exact ⟨content, exists_read_of_follow (writable_of_ordinary hall hb hd).resolve hf hp hx⟩

/-- A folder with a file in a folder, a link to that folder, and a file with a backslash in its
name. -/
def aliased : Disk :=
  ⟨.folder
    [(fileName "alias".toList, .link (Text.bytesOf "parts")),
     (fileName "odd".toList, .folder [(fileName "b\\c".toList, .file "y".toUTF8)]),
     (fileName "parts".toList, .folder [(fileName "a.txt".toList, .file "x".toUTF8)])], []⟩

lemma wellNamed_aliased : aliased.tree.WellNamed := ⟨by decide +kernel, by decide +kernel⟩

theorem lists_aliased :
    aliased.Lists "./parts" "parts" ["parts/a.txt"] ∧
      aliased.Lists "alias" "alias" ["parts/a.txt"] ∧
      aliased.Lists "odd" "odd" ["odd/b\\c"] ∧
      ∃ content, aliased.toStore.read "parts/a.txt" = .ok content := by
  have h : aliased.Lists "./parts" "parts" ["parts/a.txt"] :=
    lists_of_list wellNamed_aliased rfl (by decide +kernel)
  have hopens : aliased.Opens "parts/a.txt" := by
    refine ⟨["parts".toList, "a.txt".toList], by decide, rfl, ?_⟩
    rw [FileTree.checkPath_eq_ok]
    decide +kernel
  exact ⟨h, lists_of_list wellNamed_aliased rfl (by decide +kernel),
    lists_of_list wellNamed_aliased rfl (by decide +kernel),
    h.read _ List.mem_cons_self hopens (by decide) (by decide)⟩

/-- A folder is listed behind a link to it, but not under the link; and a file is listed that could
be opened but is not read. -/
theorem aliased_elsewhere :
    aliased.tree.WellNamed ∧
      aliased.toStore.list "alias" = .ok ["parts/a.txt"] ∧
      ¬ Path.Under "alias" "parts/a.txt" ∧
      aliased.toStore.list "odd" = .ok ["odd/b\\c"] ∧
      aliased.Opens "odd/b\\c" ∧
      aliased.toStore.read "odd/b\\c" = .error (.invalidPath ⟨"odd/b\\c", .backslash⟩) := by
  refine ⟨wellNamed_aliased, by decide +kernel, ?_, by decide +kernel, ?_, ?_⟩
  · rw [← MemoryFiles.under_iff]
    decide
  · refine ⟨["odd".toList, "b\\c".toList], by decide, rfl, ?_⟩
    rw [FileTree.checkPath_eq_ok]
    decide +kernel
  · exact (refused_of_find (find_of_resolve_error (by rfl))).1

end SvgSkeleton.Disk
