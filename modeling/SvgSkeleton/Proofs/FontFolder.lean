import SvgSkeleton.FontTable
import SvgSkeleton.Generate
import SvgSkeleton.Proofs.Snapshot

/-!
The fonts of a folder, in whatever order the system lists it. How many of the files are fonts does
not depend on the order. Which font is found under a name does, exactly if there are different files
with this name: of these the last one is taken.
-/

namespace SvgSkeleton

/-! ### Trees in another order -/

namespace FileTree

variable {t t' x : FileTree} {name : FileName} {place : Place}
  {entries order : List (FileName × FileTree)}

/-- The same kind of node: the same file, or a folder with the same names, in any order. -/
inductive Alike : FileTree → FileTree → Prop
  | file (content : ByteArray) : Alike (.file content) (.file content)
  | special (kind : SpecialFile) : Alike (.special kind) (.special kind)
  | link (target : List UInt8) : Alike (.link target) (.link target)
  | folder {entries order : List (FileName × FileTree)}
      (h : (entries.map (·.1)).Perm (order.map (·.1))) : Alike (.folder entries) (.folder order)

lemma Alike.refl : ∀ t : FileTree, Alike t t
  | .file content => .file content
  | .special kind => .special kind
  | .link target => .link target
  | .folder _ => .folder (.refl _)

/-- The same stands at every place; the entries of folders may come in another order. -/
def Reordered (t t' : FileTree) : Prop := ∀ place, Option.Rel Alike (t.at? place) (t'.at? place)

lemma Reordered.refl (t : FileTree) : t.Reordered t := fun place => by
  cases t.at? place with
  | none => exact .none
  | some x => exact .some (.refl x)

namespace Reordered

variable (h : t.Reordered t')
include h

lemma cases_at? (place : Place) : t.at? place = none ∧ t'.at? place = none ∨
    ∃ x x', t.at? place = some x ∧ t'.at? place = some x' ∧ Alike x x' := by
  have hnode := h place
  generalize t.at? place = a at hnode ⊢
  generalize t'.at? place = b at hnode ⊢
  cases hnode with
  | none => exact .inl ⟨rfl, rfl⟩
  | some ha => exact .inr ⟨_, _, rfl, rfl, ha⟩

/-- What a folder holds under a name is the same in either tree. -/
lemma lookup (hx : t.at? place = some (.folder entries))
    (hx' : t'.at? place = some (.folder order)) (name : FileName) :
    entries.lookup name = none ∧ order.lookup name = none ∨
      ∃ x x', entries.lookup name = some x ∧ order.lookup name = some x' ∧ Alike x x' := by
  have hnode := h.cases_at? (place ++ [name])
  simpa only [at?_append, hx, hx', Option.bind_some, at?_cons, at?_nil, child?,
    Option.bind_fun_some] using hnode

/-- A walk depends only on what stands at the places on its way. By induction on its steps. -/
lemma descend_eq (bound : Option Nat) (place : List FileName) (route : List Step) :
    t.descend bound place route = t'.descend bound place route := by
  induction route generalizing place with
  | nil => rfl
  | cons s route ih =>
    simp only [descend]
    split
    · rfl
    · obtain ⟨hx, hx'⟩ | ⟨x, x', hx, hx', ha⟩ := h.cases_at? place.reverse
      · rw [hx, hx']
      · rw [hx, hx']
        cases ha with
        | folder =>
          cases s with
          | stay => exact ih place
          | up => exact ih place.tail
          | down name =>
            dsimp only
            split
            · rfl
            · obtain ⟨hl, hl'⟩ | ⟨y, y', hl, hl', ha⟩ := h.lookup hx hx' name
              · rw [hl, hl']
              · rw [hl, hl']
                cases ha with
                | link => rfl
                | _ => exact ih (name :: place)
        | _ => rfl

lemma walk_eq (bound : Option Nat) (links : Nat) (place : List FileName) (route : List Step) :
    t.walk bound links place route = t'.walk bound links place route := by
  induction links generalizing place route with
  | zero => rw [walk, walk, h.descend_eq]
  | succ links ih =>
    rw [walk, walk, h.descend_eq]
    simp only [ih]

lemma locate_eq (cwd : Place) (path : List UInt8) : t.locate cwd path = t'.locate cwd path := by
  rw [locate, locate, h.walk_eq]

lemma isFileAt_eq (place : Place) : t.isFileAt place = t'.isFileAt place := by
  rw [isFileAt, isFileAt]
  obtain ⟨hx, hx'⟩ | ⟨x, x', hx, hx', ha⟩ := h.cases_at? place
  · rw [hx, hx']
  · rw [hx, hx']
    cases ha <;> rfl

lemma contentAt_eq (place : Place) : t.contentAt place = t'.contentAt place := by
  rw [contentAt, contentAt]
  obtain ⟨hx, hx'⟩ | ⟨x, x', hx, hx', ha⟩ := h.cases_at? place
  · rw [hx, hx']
  · rw [hx, hx']
    cases ha <;> rfl

/-- A folder that can be read has the same names in either tree. -/
lemma exists_readFolder {cwd : Place} {path : List UInt8}
    (hf : t.readFolder cwd path = .ok entries) :
    ∃ order, t'.readFolder cwd path = .ok order ∧
      (entries.map (·.1)).Perm (order.map (·.1)) := by
  obtain ⟨place, hl, hf⟩ := bind_eq_ok_iff.mp hf
  obtain ⟨hx, -⟩ | ⟨x, x', hx, hx', ha⟩ := h.cases_at? place
  · rw [hx] at hf
    cases hf
  · rw [hx] at hf
    cases ha with
    | @folder _ order hperm =>
      obtain rfl := Except.ok.inj hf
      refine ⟨order, ?_, hperm⟩
      rw [readFolder, ← h.locate_eq, hl]
      simp only [bind, Except.bind, hx']
      rfl
    | _ => cases hf

end Reordered

/-! ### A folder put in another order -/

lemma lookup_setEntry (node : FileTree) (name n : FileName)
    (entries : List (FileName × FileTree)) :
    (setEntry name node entries).lookup n = if n = name then some node else entries.lookup n := by
  induction entries with
  | nil => rw [setEntry, lookup_cons_eq_ite]
  | cons e entries ih =>
    rw [setEntry]
    split
    · next he =>
      rw [lookup_cons_eq_ite, lookup_cons_eq_ite, he]
      split <;> rfl
    · next he =>
      rw [lookup_cons_eq_ite, lookup_cons_eq_ite, ih]
      split
      · next hn => rw [if_neg (hn ▸ he)]
      · rfl

lemma map_setEntry {node : FileTree} (hl : entries.lookup name = some x) :
    (setEntry name node entries).map (·.1) = entries.map (·.1) := by
  induction entries with
  | nil => cases hl
  | cons e entries ih =>
    rw [setEntry]
    split
    · next he => rw [List.map_cons, List.map_cons, he]
    · next he =>
      rw [lookup_cons_eq_ite, if_neg (Ne.symm he)] at hl
      rw [List.map_cons, List.map_cons, ih hl]

lemma at?_put (t node : FileTree) (place : Place) : (t.put node place).at? place = some node := by
  induction place generalizing t with
  | nil => rfl
  | cons name place ih =>
    obtain ⟨entries, inner, hput⟩ : ∃ entries inner,
        t.put node (name :: place) = folder (setEntry name (put inner node place) entries) := by
      cases t <;> exact ⟨_, _, rfl⟩
    rw [hput, at?_cons, child?, lookup_setEntry, if_pos rfl, Option.bind_some, ih]

/-- Two folders hold the same if they hold the same under every name. -/
lemma reordered_folder (hperm : (entries.map (·.1)).Perm (order.map (·.1)))
    (hl : ∀ name, Option.Rel Reordered (entries.lookup name) (order.lookup name)) :
    (folder entries).Reordered (folder order) := by
  intro place
  cases place with
  | nil => exact .some (.folder hperm)
  | cons name place =>
    have hname := hl name
    rw [at?_cons, at?_cons, child?, child?]
    generalize entries.lookup name = a at hname
    generalize order.lookup name = b at hname
    cases hname with
    | none => exact .none
    | some h => exact h place

lemma rel_reordered_refl (a : Option FileTree) : Option.Rel Reordered a a := by
  cases a with
  | none => exact .none
  | some t => exact .some (.refl t)

/-- Where a folder of the tree is put in another order, nothing else changes. -/
lemma reordered_put (hd : t.Distinct) (hx : t.at? place = some (.folder entries))
    (hperm : order.Perm entries) : t.Reordered (t.put (.folder order) place) := by
  induction place generalizing t with
  | nil =>
    obtain rfl := Option.some.inj hx
    have hmap := hperm.map (·.1)
    refine reordered_folder hmap.symm fun name => ?_
    have hlookup : entries.lookup name = order.lookup name := by
      refine Option.ext fun u => ?_
      rw [lookup_eq_some_iff_mem hd.1, lookup_eq_some_iff_mem (hmap.nodup_iff.mpr hd.1),
        hperm.mem_iff]
    rw [hlookup]
    exact rel_reordered_refl _
  | cons name place ih =>
    rw [at?_cons, Option.bind_eq_some_iff] at hx
    obtain ⟨u, hu, hx⟩ := hx
    have hinner := ih (distinct_of_child? hd hu) hx
    obtain ⟨others, rfl, hl⟩ := child?_eq_some_iff.mp hu
    rw [put, hl]
    refine reordered_folder (by rw [map_setEntry hl]) fun n => ?_
    rw [lookup_setEntry]
    split
    · next hn =>
      rw [hn, hl]
      exact .some hinner
    · exact rel_reordered_refl _

end FileTree

/-! ### Loading fonts in any order -/

lemma Catalog.insert_insert_comm {α : Type} (c : Catalog α) {k l : String} {v w : α}
    (h : k = l → v = w) : (c.insert k v).insert l w = (c.insert l w).insert k v := by
  refine Catalog.eq_of_find? fun key => ?_
  simp only [Catalog.find?_insert]
  split <;> split <;> simp_all

namespace FontTable

variable {fonts : FontTable} {files order : List (FileName × ByteArray)}
  {f : FileName × ByteArray} {name : String}

/-- Is a file with this name loaded? -/
def isFont (f : FileName × ByteArray) : Bool := (familyName? f.1).isSome

/-- Fonts of one name have the same content. -/
def Unambiguous (files : List (FileName × ByteArray)) : Prop :=
  ∀ f ∈ files, ∀ g ∈ files, isFont f = true → familyName? f.1 = familyName? g.1 → f.2 = g.2

instance (files : List (FileName × ByteArray)) : Decidable (Unambiguous files) :=
  inferInstanceAs (Decidable (∀ f ∈ files, ∀ g ∈ files, _ → _ → _))

/-- As many fonts are loaded as there are, also if one takes the place of another. -/
lemma extend_snd (fonts : FontTable) (files : List (FileName × ByteArray)) :
    (fonts.extend files).2 = files.countP isFont := by
  have hload (done : FontTable × Nat) :
      (files.foldl load done).2 = done.2 + files.countP isFont := by
    induction files generalizing done with
    | nil => rfl
    | cons f files ih =>
      rw [List.foldl_cons, ih, List.countP_cons, load, isFont]
      cases familyName? f.1 with
      | none => rfl
      | some name =>
        show done.2 + 1 + _ = done.2 + (_ + 1)
        omega
  rw [extend, hload, Nat.zero_add]

/-- Fonts of different names, or with the same content, can be loaded in either order. -/
lemma load_comm {g : FileName × ByteArray} (done : FontTable × Nat)
    (h : isFont f = true → familyName? f.1 = familyName? g.1 → f.2 = g.2) :
    load (load done f) g = load (load done g) f := by
  unfold load
  cases hf : familyName? f.1 with
  | none => rfl
  | some name =>
    cases hg : familyName? g.1 with
    | none => rfl
    | some other =>
      have hcomm := Catalog.insert_insert_comm done.1 (k := name) (l := other) (v := f.2) (w := g.2)
        (by
          rintro rfl
          exact h (by rw [isFont, hf]; rfl) (hf.trans hg.symm))
      simp only [hcomm]

lemma extend_perm (h : Unambiguous files) (hperm : order.Perm files) :
    fonts.extend order = fonts.extend files :=
  (hperm.symm.foldl_eq' (fun f hf g hg done => load_comm done (h f hf g hg)) (fonts, 0)).symm

/-- The last font of a name is the one that is found. -/
lemma find?_extend_append (h : familyName? f.1 = some name) :
    (fonts.extend (files ++ [f])).1.find? name = some f.2 := by
  rw [extend, List.foldl_append, List.foldl_cons, List.foldl_nil, load, h]
  simp [Catalog.find?_insert]

/-! ### The fonts of a folder -/

variable {tree tree' : FileTree} {cwd : Place} {path : String}
  {entries : List (FileName × FileTree)}

/-- The file of a folder under a name, with its content, links followed. -/
def fileOf? (tree : FileTree) (cwd : Place) (path : List UInt8) (name : FileName) :
    Option (FileName × ByteArray) :=
  match tree.locate cwd (entryPath path name) with
  | .error _ => none
  | .ok place =>
    if tree.isFileAt place then (tree.contentAt place).toOption.map (name, ·) else none

lemma filesIn_eq (tree : FileTree) (cwd : Place) (path : List UInt8)
    (entries : List (FileName × FileTree)) :
    filesIn tree cwd path entries = (entries.map (·.1)).filterMap (fileOf? tree cwd path) := by
  rw [List.filterMap_map]
  rfl

lemma fileOf?_eq (h : tree.Reordered tree') (cwd : Place) (path : List UInt8) :
    fileOf? tree cwd path = fileOf? tree' cwd path := by
  funext name
  simp only [fileOf?, h.locate_eq, h.isFileAt_eq, h.contentAt_eq]

lemma extendFromFolder_eq (fonts : FontTable)
    (hf : tree.readFolder cwd (Text.bytesOf path) = .ok entries) :
    fonts.extendFromFolder tree cwd path =
      .ok (fonts.extend (filesIn tree cwd (Text.bytesOf path) entries)) := by
  rw [extendFromFolder, hf]

/-- From a folder in another order the same files are loaded, in another order. -/
lemma exists_perm_of_reordered (h : tree.Reordered tree')
    (hf : tree.readFolder cwd (Text.bytesOf path) = .ok entries) :
    ∃ files, files.Perm (filesIn tree cwd (Text.bytesOf path) entries) ∧
      ∀ fonts : FontTable, fonts.extendFromFolder tree' cwd path = .ok (fonts.extend files) := by
  obtain ⟨order, ho, hperm⟩ := h.exists_readFolder hf
  refine ⟨_, ?_, fun fonts => extendFromFolder_eq fonts ho⟩
  rw [filesIn_eq, filesIn_eq, ← fileOf?_eq h]
  exact (hperm.filterMap _).symm

/-- Any file may be the last one that is loaded. -/
lemma exists_reordered_of_mem (ht : tree.Distinct)
    (hf : tree.readFolder cwd (Text.bytesOf path) = .ok entries)
    (hm : f ∈ filesIn tree cwd (Text.bytesOf path) entries) :
    ∃ tree' files, tree.Reordered tree' ∧ ∀ fonts : FontTable,
      fonts.extendFromFolder tree' cwd path = .ok (fonts.extend (files ++ [f])) := by
  obtain ⟨place, hl, hfolder⟩ := bind_eq_ok_iff.mp hf
  have hx : tree.at? place = some (.folder entries) := by
    split at hfolder
    · next x hx =>
      obtain rfl := Except.ok.inj hfolder
      exact hx
    · cases hfolder
  rw [filesIn_eq] at hm
  obtain ⟨name, hname, hfile⟩ := List.mem_filterMap.mp hm
  obtain ⟨e, he, rfl⟩ := List.mem_map.mp hname
  obtain ⟨before, after, rfl⟩ := List.append_of_mem he
  have hperm : (before ++ after ++ [e]).Perm (before ++ e :: after) := by
    rw [List.append_assoc]
    exact (List.perm_append_singleton e after).append_left before
  have hr := FileTree.reordered_put ht hx hperm
  refine ⟨_, (before ++ after).map (·.1) |>.filterMap (fileOf? tree cwd (Text.bytesOf path)), hr,
    fun fonts => ?_⟩
  have ho : (tree.put (.folder (before ++ after ++ [e])) place).readFolder cwd (Text.bytesOf path)
      = .ok (before ++ after ++ [e]) := by
    rw [FileTree.readFolder, ← hr.locate_eq, hl]
    simp only [bind, Except.bind, FileTree.at?_put]
    rfl
  rw [extendFromFolder_eq fonts ho, filesIn_eq, ← fileOf?_eq hr, List.map_append,
    List.filterMap_append, List.map_singleton, List.filterMap_cons, hfile, List.filterMap_nil]

/-- **The fonts of a folder do not depend on its order, exactly if those of one name are the same.**
How many are loaded never depends on it. -/
theorem extendFromFolder_reordered (fonts : FontTable) (ht : tree.Distinct)
    (hf : tree.readFolder cwd (Text.bytesOf path) = .ok entries) :
    (∀ tree', tree.Reordered tree' → ∃ table, fonts.extendFromFolder tree' cwd path =
      .ok (table, (filesIn tree cwd (Text.bytesOf path) entries).countP isFont)) ∧
    ((∀ tree', tree.Reordered tree' →
        fonts.extendFromFolder tree' cwd path = fonts.extendFromFolder tree cwd path) ↔
      Unambiguous (filesIn tree cwd (Text.bytesOf path) entries)) ∧
    (Unambiguous (filesIn tree cwd (Text.bytesOf path) entries) →
      ∀ tree' r r', tree.Reordered tree' → fonts.extendFromFolder tree cwd path = .ok r →
        fonts.extendFromFolder tree' cwd path = .ok r' → ∀ (store : Store) (options : Options),
          generate store { options with fonts := r.1 } =
            generate store { options with fonts := r'.1 }) := by
  have hsame (hu : Unambiguous (filesIn tree cwd (Text.bytesOf path) entries)) (tree' : FileTree)
      (h : tree.Reordered tree') :
      fonts.extendFromFolder tree' cwd path = fonts.extendFromFolder tree cwd path := by
    obtain ⟨files, hperm, ho⟩ := exists_perm_of_reordered h hf
    rw [ho, extendFromFolder_eq fonts hf, extend_perm hu hperm]
  refine ⟨fun tree' h => ?_, ⟨fun h f hfm g hgm hfont hfg => ?_, hsame⟩, ?_⟩
  · obtain ⟨files, hperm, ho⟩ := exists_perm_of_reordered h hf
    refine ⟨(fonts.extend files).1, ?_⟩
    rw [ho, ← hperm.countP_eq, ← extend_snd fonts files]
  · obtain ⟨name, hfn⟩ := Option.isSome_iff_exists.mp hfont
    have hgn := hfg.symm.trans hfn
    obtain ⟨first, files, hfirst, hfo⟩ := exists_reordered_of_mem ht hf hfm
    obtain ⟨second, others, hsecond, hgo⟩ := exists_reordered_of_mem ht hf hgm
    have htables := (hfo fonts).symm.trans
      ((h first hfirst).trans ((h second hsecond).symm.trans (hgo fonts)))
    have hfound := congrArg (fun r => r.1.find? name) (Except.ok.inj htables)
    simpa only [find?_extend_append hfn, find?_extend_append hgn, Option.some.injEq] using hfound
  · intro hu tree' r r' h hr hr' store options
    rw [hsame hu tree' h, hr] at hr'
    rw [Except.ok.inj hr']

/-- A folder with these entries. -/
def shelf (entries : List (FileName × FileTree)) : FileTree :=
  .folder [(Text.bytesOf "fonts", .folder entries)]

/-- A font file with a text for its content. -/
def fontFile (name content : String) : FileName × FileTree :=
  (Text.bytesOf name, .file content.toUTF8)

lemma reordered_shelf {entries order : List (FileName × FileTree)} (hd : (shelf entries).Distinct)
    (h : order.Perm entries) : (shelf entries).Reordered (shelf order) := by
  have hput : shelf order = (shelf entries).put (.folder order) [Text.bytesOf "fonts"] := by
    simp [shelf, FileTree.put, FileTree.setEntry]
  rw [hput]
  exact FileTree.reordered_put hd (by simp [shelf, FileTree.child?]) h

/-- Fonts with different names, one of them there twice, and another file. -/
def different : List (FileName × FileTree) :=
  [fontFile "A.woff2" "x", fontFile "A.WOFF2" "x", fontFile "B.Woff2" "y", fontFile "b.txt" "z"]

theorem extendFromFolder_different :
    ∃ table, extendFromFolder .empty (shelf different) [] "fonts" = .ok (table, 3) ∧
      extendFromFolder .empty (shelf different.reverse) [] "fonts" = .ok (table, 3) := by
  have hd : (shelf different).Distinct := by decide +kernel
  have hf : (shelf different).readFolder [] (Text.bytesOf "fonts") = .ok different := by rfl
  obtain ⟨hcount, hsame, -⟩ := extendFromFolder_reordered .empty hd hf
  have hu : Unambiguous (filesIn (shelf different) [] (Text.bytesOf "fonts") different) := by
    decide +kernel
  obtain ⟨table, htable⟩ := hcount _ (.refl _)
  have hr := hsame.mpr hu _ (reordered_shelf hd (List.reverse_perm different))
  exact ⟨table, htable, hr.trans htable⟩

/-- Two fonts of one name. -/
def sameName : List (FileName × FileTree) := [fontFile "A.woff2" "x", fontFile "A.WOFF2" "y"]

/-- The picture that a manifest with a font of that name gives with the fonts of a folder. -/
def pictureWith (entries : List (FileName × FileTree)) : Outcome String := do
  let manifest := "\x7b\"fonts\":[\x7b\"name\":\"A\",\"bundled\":true\x7d]\x7d"
  let files : MemoryFiles := .ofList [("collagen.json", manifest.toUTF8)]
  let loaded ← extendFromFolder .empty (shelf entries) [] "fonts"
  let document ← generate files.toStore { Options.bare none with fonts := loaded.1 }
  return document.svg

/-- The one that the system lists last is taken. -/
theorem extendFromFolder_sameName :
    (shelf sameName).Reordered (shelf sameName.reverse) ∧
      (extendFromFolder .empty (shelf sameName) [] "fonts").map (·.1.find? "A") =
        .ok (some "y".toUTF8) ∧
      (extendFromFolder .empty (shelf sameName.reverse) [] "fonts").map (·.1.find? "A") =
        .ok (some "x".toUTF8) ∧
      pictureWith sameName = .ok ("<svg xmlns=\"http://www.w3.org/2000/svg\"><defs><style>"
        ++ "@font-face \x7b font-family: \"A\"; src: url(data:font/woff2;base64,eQ==) "
        ++ "format(\"woff2\"); \x7d</style></defs></svg>") ∧
      pictureWith sameName ≠ pictureWith sameName.reverse := by
  have hd : (shelf sameName).Distinct := by decide +kernel
  exact ⟨reordered_shelf hd (List.reverse_perm sameName), by decide +kernel, by decide +kernel,
    by decide +kernel, by decide +kernel⟩

end FontTable
end SvgSkeleton
