import SvgSkeleton.Proofs.DiskPaths

/-!
A folder on disk answers for nothing outside it. A path is taken to its normal form before any link
is followed, so that it names a place below the root; the links on the way there may lead anywhere.
Where they lead is found out before anything is opened, and what is outside is refused. Only where
this cannot be found out is a path opened as it is named, and then nothing is there to be opened.
-/

namespace SvgSkeleton

namespace Text

lemma bytesOf_append (a b : String) : bytesOf (a ++ b) = bytesOf a ++ bytesOf b := by
  simp [bytesOf, String.toUTF8]

lemma bytesOf_of_decode? {bytes : List UInt8} {s : String}
    (h : decode? ⟨bytes.toArray⟩ = some s) : bytesOf s = bytes := by
  simp only [decode?, String.fromUTF8?] at h
  split at h
  · obtain rfl := Option.some.inj h
    rfl
  · cases h

lemma map_bytesOf_of_mapM {names : List (List UInt8)} {texts : List String}
    (h : names.mapM (fun name => decode? ⟨name.toArray⟩) = some texts) :
    texts.map bytesOf = names := by
  induction names generalizing texts with
  | nil =>
    obtain rfl := Option.some.inj h
    rfl
  | cons name rest ih =>
    rw [List.mapM_cons] at h
    obtain ⟨text, htext, h⟩ := Option.bind_eq_some_iff.mp h
    obtain ⟨others, hothers, h⟩ := Option.bind_eq_some_iff.mp h
    obtain rfl := Option.some.inj h
    rw [List.map_cons, bytesOf_of_decode? htext, ih hothers]

end Text

namespace FileTree

/-- A name that a path can hold and that a step goes down to. -/
def Proper (name : FileName) : Prop :=
  Step.ofName name = .down name ∧ 0x2F ∉ name ∧ name.length ≤ nameLimit

instance (name : FileName) : Decidable (Proper name) :=
  inferInstanceAs (Decidable (_ ∧ _ ∧ _))

/-- As on any disk: the names in a folder are different ones, and proper. -/
structure WellNamed (t : FileTree) : Prop where
  distinct : t.Distinct
  proper : ∀ place ∈ t.files, ∀ name ∈ place, Proper name

lemma split_eq_singleton {name : FileName} (h : 0x2F ∉ name) : split name = [name] := by
  induction name with
  | nil => rfl
  | cons b name ih =>
    have hb : b ≠ 0x2F := fun hb => h (by simp [hb])
    rw [split, if_neg hb, ih fun hm => h (List.mem_cons_of_mem _ hm)]

lemma split_append_slash {name : FileName} (h : 0x2F ∉ name) (rest : List UInt8) :
    split (name ++ 0x2F :: rest) = name :: split rest := by
  induction name with
  | nil => rfl
  | cons b name ih =>
    have hb : b ≠ 0x2F := fun hb => h (by simp [hb])
    rw [List.cons_append, split, if_neg hb, ih fun hm => h (List.mem_cons_of_mem _ hm)]

/-- A path made of proper names goes down along them. -/
lemma steps_intercalate {texts : List String} (hn : texts ≠ [])
    (hp : ∀ text ∈ texts, Proper (Text.bytesOf text)) :
    steps (Text.bytesOf (String.intercalate "/" texts)) =
      (texts.map Text.bytesOf).map .down := by
  induction texts with
  | nil => exact absurd rfl hn
  | cons text rest ih =>
    obtain ⟨⟨hstep, hslash, -⟩, hrest⟩ := List.forall_mem_cons.mp hp
    cases rest with
    | nil =>
      have hone : String.intercalate "/" [text] = text := rfl
      rw [hone, steps, split_eq_singleton hslash, List.map_singleton, hstep]
      rfl
    | cons next rest =>
      have hsep : Text.bytesOf "/" = [0x2F] := by decide
      rw [String.intercalate_cons_cons, Text.bytesOf_append, Text.bytesOf_append, hsep,
        List.append_assoc, List.singleton_append, steps, split_append_slash hslash, List.map_cons,
        hstep, ← steps, ih (List.cons_ne_nil _ _) hrest]
      rfl

end FileTree

namespace Disk

variable {d : Disk} {names : List Path.Segment} {path q : String} {place : Place}

/-- The place to which steps lead from the root, all links followed. -/
def Reaches (d : Disk) (route : List FileTree.Step) (place : Place) : Prop :=
  ∃ left, d.tree.walk none FileTree.linkLimit d.root.reverse route = .ok (place.reverse, left)

/-- The place of what a path stands for: its names are gone down along from the root, and links on
the way are followed. -/
def LeadsTo (d : Disk) (path : String) (place : Place) : Prop :=
  ∃ names, Path.resolve path.toList = .ok names ∧ d.Reaches ((names.map fileName).map .down) place

/-- Wherever names lead, the path of the place without links can be found out: no path on the way
there is too long to be looked up. -/
def Canonicalizes (d : Disk) : Prop :=
  ∀ (names : List Path.Segment) place, d.Reaches ((names.map fileName).map .down) place →
    ∃ left, d.tree.walk (some FileTree.pathLimit) FileTree.linkLimit d.root.reverse
      ((names.map fileName).map .down) = .ok (place.reverse, left)

/-- So it is on a disk without long paths. -/
lemma canonicalizes_of_longest (h : d.tree.longest + 1 < FileTree.pathLimit) : d.Canonicalizes :=
  fun _ _ ⟨left, hw⟩ => ⟨left, FileTree.walk_of_fits (FileTree.fits_of_longest h) hw⟩

/-- What is opened is the place that the names lead to, by its own path. -/
lemma follow_eq_ok_iff (hc : d.Canonicalizes) {found : Found} :
    d.follow names = .ok found ↔
      ∃ place, d.Reaches ((names.map fileName).map .down) place ∧ found = ⟨place, place⟩ := by
  constructor
  · intro h
    simp only [follow] at h
    split at h
    · next inner left hw =>
      obtain rfl := Except.ok.inj h
      refine ⟨inner.reverse, ⟨left, ?_⟩, rfl⟩
      rw [List.reverse_reverse]
      exact FileTree.walk_of_fits (FileTree.fits_none _) hw
    · next reason hb =>
      -- the names as they are given would be opened, but they lead nowhere
      split at h
      · next inner left _ hw =>
        have hr : d.Reaches ((names.map fileName).map .down) inner.reverse :=
          ⟨left, by rwa [List.reverse_reverse]⟩
        obtain ⟨left', hw'⟩ := hc names _ hr
        rw [hb] at hw'
        cases hw'
      · cases h
      · cases h
  · rintro ⟨place, hr, rfl⟩
    obtain ⟨left, hw⟩ := hc names place hr
    simp only [follow, hw, List.reverse_reverse]

lemma find_of_outside (hc : d.Canonicalizes) (h : d.LeadsTo path place)
    (ho : ¬ d.root <+: place) : d.find path = .error (.invalidPath ⟨path, .outsideRoot⟩) := by
  obtain ⟨names, hr, h⟩ := h
  have hf := (follow_eq_ok_iff hc).mpr ⟨place, h, rfl⟩
  have hp : d.root.isPrefixOf place = false := by
    rw [Bool.eq_false_iff]
    exact fun hp => ho (List.isPrefixOf_iff_prefix.mp hp)
  simp [find, hr, hf, hp]

lemma find_eq_ok_iff (hc : d.Canonicalizes) {found : Found} :
    d.find path = .ok (.ok found) ↔
      ∃ place, d.LeadsTo path place ∧ d.root <+: place ∧ found = ⟨place, place⟩ := by
  constructor
  · intro h
    obtain ⟨names, hr, hf⟩ := find_eq_ok h
    obtain ⟨place, hplace, rfl⟩ := (follow_eq_ok_iff hc).mp hf
    refine ⟨place, ⟨names, hr, hplace⟩, ?_, rfl⟩
    by_contra ho
    rw [find_of_outside hc ⟨names, hr, hplace⟩ ho] at h
    cases h
  · rintro ⟨place, ⟨names, hr, hplace⟩, hp, rfl⟩
    have hf := (follow_eq_ok_iff hc).mpr ⟨place, hplace, rfl⟩
    simp [find, hr, hf, List.isPrefixOf_iff_prefix.mpr hp]

lemma find_of_resolve_error {fault : Path.Fault} (h : Path.resolve path.toList = .error fault) :
    d.find path = .error (.invalidPath ⟨path, fault⟩) := by
  rw [find, h]

/-- A path for which nothing can be found is neither read nor has a canonical form. -/
lemma refused_of_find {e : Error} (h : d.find path = .error e) :
    d.read path = .error e ∧ d.canonicalFolder path = .error e := by
  rw [read, canonicalFolder, h]
  exact ⟨rfl, rfl⟩

/-- Every path in a list is that of a file inside the folder. -/
lemma exists_file_of_list (hc : d.Canonicalizes) (ht : d.tree.Distinct) {paths : List String}
    (h : d.list path = .ok paths) (hq : q ∈ paths) :
    ∃ place content, d.pathOf place = .ok q ∧ d.root <+: place ∧
      d.tree.at? place = some (.file content) := by
  obtain ⟨normal, -, rfl | ⟨found, x, listed, hf, hx, hl, rfl⟩⟩ := list_eq_ok h
  · cases hq
  · obtain ⟨place, -, hp, rfl⟩ := (find_eq_ok_iff hc).mp hf
    obtain ⟨inner, hi, hpath⟩ := (mem_iff_of_mapM_eq_ok hl).mp (List.mem_mergeSort.mp hq)
    have hdistinct := FileTree.distinct_of_at? ht hx
    obtain ⟨content, hfile⟩ := (FileTree.mem_files_iff hdistinct).mp hi
    refine ⟨place ++ inner, content, hpath, hp.trans (List.prefix_append ..), ?_⟩
    rw [FileTree.at?_append, hx]
    exact hfile

/-- The path of a file inside the folder leads there, as it stands. -/
lemma reaches_of_pathOf {content : ByteArray} (hr : d.tree.isFolderAt d.root = true)
    (ht : d.tree.WellNamed) (hp : d.root <+: place)
    (hx : d.tree.at? place = some (.file content)) (hq : d.pathOf place = .ok q) :
    d.Reaches (FileTree.steps (Text.bytesOf q)) place := by
  obtain ⟨names, rfl⟩ := hp
  rw [FileTree.isFolderAt, Option.any_eq_true] at hr
  obtain ⟨folder, hf, hfolder⟩ := hr
  have hproper : ∀ name ∈ names, FileTree.Proper name := fun name hm =>
    ht.proper _ ((FileTree.mem_files_iff ht.distinct).mpr ⟨content, hx⟩) _
      (List.mem_append_right _ hm)
  rw [FileTree.at?_append, hf, Option.bind_some] at hx
  rw [pathOf, List.drop_left] at hq
  split at hq
  · next texts htexts =>
    obtain rfl := Except.ok.inj hq
    have hbytes := Text.map_bytesOf_of_mapM htexts
    have hn : texts ≠ [] := by
      rintro rfl
      obtain rfl : [] = names := hbytes
      obtain rfl := Option.some.inj hx
      cases hfolder
    have hsteps := FileTree.steps_intercalate hn fun text hm =>
      hproper _ (hbytes ▸ List.mem_map_of_mem hm)
    refine ⟨FileTree.linkLimit, ?_⟩
    rw [hsteps, hbytes, List.reverse_append]
    refine FileTree.walk_to ?_ hx (by simp) (fun name hm => (hproper name hm).2.2) (by simp) _
    rwa [List.reverse_reverse]
  · cases hq

/-- **A folder on disk is confined to itself.** What is read is the content of a file inside it,
what is said to be a file is one inside it, and every path in a list leads to a file inside it. A
path that leads outside is refused, and so is one that has no normal form. -/
theorem confined {tree : FileTree} {cwd : Place} {start : String} {d : Disk}
    (hd : Disk.ofPath tree cwd start = .ok d) (hc : d.Canonicalizes) (ht : tree.WellNamed) :
    (∀ path content, d.toStore.read path = .ok content →
      ∃ place, d.LeadsTo path place ∧ d.root <+: place ∧
        d.tree.contentAt place = .ok content) ∧
    (∀ path, d.toStore.isFile path = true →
      ∃ place content, d.LeadsTo path place ∧ d.root <+: place ∧
        d.tree.at? place = some (.file content)) ∧
    (∀ path paths, d.toStore.list path = .ok paths → ∀ q ∈ paths,
      ∃ place content, d.Reaches (FileTree.steps (Text.bytesOf q)) place ∧ d.root <+: place ∧
        d.tree.at? place = some (.file content)) ∧
    (∀ path place, d.LeadsTo path place → ¬ d.root <+: place →
      d.toStore.read path = .error (.invalidPath ⟨path, .outsideRoot⟩) ∧
      d.toStore.canonicalFolder path = .error (.invalidPath ⟨path, .outsideRoot⟩)) ∧
    ∀ path fault, Path.resolve path.toList = .error fault →
      d.toStore.read path = .error (.invalidPath ⟨path, fault⟩) ∧
      d.toStore.canonicalFolder path = .error (.invalidPath ⟨path, fault⟩) := by
  have hfolder : d.tree = tree ∧ d.tree.isFolderAt d.root = true := by
    unfold ofPath at hd
    split at hd
    · cases hd
    · split at hd
      · next hr =>
        obtain rfl := Except.ok.inj hd
        exact ⟨rfl, hr⟩
      · cases hd
  obtain ⟨rfl, hr⟩ := hfolder
  refine ⟨fun path content h => ?_, fun path h => ?_, fun path paths h q hq => ?_, ?_, ?_⟩
  · obtain ⟨found, hf, hcontent⟩ := exists_found_of_read h
    obtain ⟨place, hplace, hp, rfl⟩ := (find_eq_ok_iff hc).mp hf
    exact ⟨place, hplace, hp, hcontent⟩
  · obtain ⟨found, hf, content, hx⟩ := exists_found_of_isFile h
    obtain ⟨place, hplace, hp, rfl⟩ := (find_eq_ok_iff hc).mp hf
    exact ⟨place, content, hplace, hp, hx⟩
  · obtain ⟨place, content, hq, hp, hx⟩ := exists_file_of_list hc ht.distinct h hq
    exact ⟨place, content, reaches_of_pathOf hr ht hp hx hq, hp, hx⟩
  · exact fun path place hplace ho => refused_of_find (find_of_outside hc hplace ho)
  · exact fun path fault hfault => refused_of_find (find_of_resolve_error hfault)

/-- A folder with a link to its own file, and with links that lead out of it: to a file above, by
another link, and into a folder whose name goes on from its own. -/
def linked : Disk :=
  ⟨.folder
    [(fileName "secret".toList, .file "s".toUTF8),
     (fileName "skeleton2".toList, .folder [(fileName "c.txt".toList, .file "c".toUTF8)]),
     (fileName "skeleton".toList, .folder
      [(fileName "a".toList, .folder [(fileName "b.txt".toList, .file "b".toUTF8)]),
       (fileName "again".toList, .link (Text.bytesOf "a/b.txt")),
       (fileName "lost".toList, .link (Text.bytesOf "a/nothing")),
       (fileName "next".toList, .link (Text.bytesOf "../skeleton2")),
       (fileName "out".toList, .link (Text.bytesOf "../secret")),
       (fileName "way".toList, .link (Text.bytesOf "out"))])],
    [fileName "skeleton".toList]⟩

theorem linked_confined :
    Disk.ofPath linked.tree [] "skeleton" = .ok linked ∧
      (∃ place, linked.LeadsTo "a/../again" place ∧ linked.root <+: place ∧
        linked.tree.contentAt place = .ok "b".toUTF8) ∧
      (∃ place content, linked.LeadsTo "again" place ∧ linked.root <+: place ∧
        linked.tree.at? place = some (.file content)) ∧
      (∃ place content, linked.Reaches (FileTree.steps (Text.bytesOf "a/b.txt")) place ∧
        linked.root <+: place ∧ linked.tree.at? place = some (.file content)) ∧
      linked.toStore.read "way" = .error (.invalidPath ⟨"way", .outsideRoot⟩) ∧
      linked.toStore.canonicalFolder "next/c.txt" =
        .error (.invalidPath ⟨"next/c.txt", .outsideRoot⟩) ∧
      linked.toStore.read "../secret" = .error (.invalidPath ⟨"../secret", .aboveRoot⟩) := by
  have hd : Disk.ofPath linked.tree [] "skeleton" = .ok linked := by rfl
  have hc : linked.Canonicalizes := canonicalizes_of_longest (by decide +kernel)
  have ht : linked.tree.WellNamed := ⟨by decide +kernel, by decide +kernel⟩
  obtain ⟨hread, hfile, hlist, hout, hup⟩ := confined hd hc ht
  refine ⟨hd, hread _ _ (by rfl), hfile _ (by decide +kernel), ?_, ?_, ?_, ?_⟩
  · have hpaths : linked.toStore.list "a/." = .ok ["a/b.txt"] := by decide +kernel
    exact hlist _ _ hpaths _ (by simp)
  · have hway : linked.LeadsTo "way" [fileName "secret".toList] :=
      ⟨["way".toList], by rfl, 38, by rfl⟩
    exact (hout _ _ hway (by decide +kernel)).1
  · have hnext : linked.LeadsTo "next/c.txt"
        [fileName "skeleton2".toList, fileName "c.txt".toList] :=
      ⟨["next".toList, "c.txt".toList], by rfl, 39, by rfl⟩
    exact (hout _ _ hnext (by decide +kernel)).2
  · exact (hup _ .aboveRoot (by rfl)).1

end Disk

end SvgSkeleton
