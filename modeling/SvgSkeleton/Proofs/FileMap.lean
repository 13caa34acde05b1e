import Mathlib.Tactic.SplitIfs
import SvgSkeleton.Proofs.AddedFiles
import SvgSkeleton.Proofs.Agreement

/-!
Files in memory are a map from the normal forms of paths. However the paths were spelled under which
files were put in, a path reads what was put in last under its normal form, and a list holds the
normal forms that are under the folder, in the order of their bytes. What was refused leaves no
trace.
-/

namespace SvgSkeleton.Text

/-! ### The order of bytes

Texts are compared character by character. In UTF-8 a smaller character has smaller bytes, and those
of no character begin those of another one; so comparing the bytes comes to the same.
-/

lemma bytesOf_eq_flatMap (s : String) : bytesOf s = s.toList.flatMap String.utf8EncodeChar := by
  have h : s.toUTF8 = (s.toList.flatMap String.utf8EncodeChar).toByteArray := by
    conv => lhs; rw [← String.ofList_toList (s := s)]
    rfl
  rw [bytesOf, h, List.toList_data_toByteArray]

/-- A smaller character has smaller bytes, whatever stands behind them. -/
lemma utf8EncodeChar_append_lt {c d : Char} (h : c < d) (x y : List UInt8) :
    String.utf8EncodeChar c ++ x < String.utf8EncodeChar d ++ y := by
  have hlt : c.val.toNat < d.val.toNat := h
  have hd : d.val.toNat < 0x110000 := by
    have := d.valid
    simp only [UInt32.isValidChar, Nat.isValidChar] at this
    omega
  unfold String.utf8EncodeChar
  dsimp only
  -- both have from one to four bytes, and each byte is a number of the code point's digits
  split_ifs <;>
    simp (disch := omega) only [List.cons_append, List.nil_append, List.cons_lt_cons_iff,
      UInt8.lt_iff_toNat_lt, ← UInt8.toNat_inj, UInt8.toNat_ofNat', Nat.mod_eq_of_lt] <;> omega

lemma flatMap_utf8EncodeChar_lt {a b : List Char} (h : a < b) :
    a.flatMap String.utf8EncodeChar < b.flatMap String.utf8EncodeChar := by
  induction a generalizing b with
  | nil =>
    cases b with
    | nil => exact absurd h (List.lt_irrefl _)
    | cons d b =>
      obtain ⟨byte, bytes, hd⟩ := List.exists_cons_of_ne_nil (String.utf8EncodeChar_ne_nil (c := d))
      rw [List.flatMap_cons, hd]
      exact List.Lex.nil
  | cons c a ih =>
    cases b with
    | nil => cases h
    | cons d b =>
      rw [List.flatMap_cons, List.flatMap_cons]
      rcases List.cons_lt_cons_iff.mp h with hcd | ⟨rfl, hab⟩
      · exact utf8EncodeChar_append_lt hcd _ _
      · exact List.append_left_lt (ih hab)

/-- The order of texts is that of their bytes. -/
theorem bytesOf_lt_iff {s t : String} : bytesOf s < bytesOf t ↔ s < t := by
  have mono : ∀ {s t : String}, s < t → bytesOf s < bytesOf t := fun h => by
    rw [bytesOf_eq_flatMap, bytesOf_eq_flatMap]
    exact flatMap_utf8EncodeChar_lt (String.lt_iff.mp h)
  refine ⟨fun h => ?_, mono⟩
  refine Decidable.byContradiction fun hn => ?_
  by_cases hts : t < s
  · exact List.lt_asymm h (mono hts)
  · obtain rfl := String.le_antisymm (String.not_lt.mp hts) (String.not_lt.mp hn)
    exact List.lt_irrefl _ h

end SvgSkeleton.Text

namespace SvgSkeleton

/-- The path is that of the folder, or goes on from it behind a slash; every path is under the
root. -/
def Path.Under (folder path : String) : Prop :=
  folder = "" ∨ path = folder ∨ ∃ rest, path = folder ++ "/" ++ rest

namespace MemoryFiles

variable {files : MemoryFiles} {given : List (String × ByteArray)} {path key : String}
  {content : ByteArray}

/-- Put in a file; if it is refused, the files stay as they are. -/
def tryInsert (files : MemoryFiles) (f : String × ByteArray) : MemoryFiles :=
  (files.insert f.1 f.2).toOption.getD files

/-- Put in files, one after the other. -/
def insertEach (files : MemoryFiles) (given : List (String × ByteArray)) : MemoryFiles :=
  given.foldl tryInsert files

/-- A file with this path is kept under the key: under its normal form, which is not the root. -/
def GoesTo (path key : String) : Prop := Path.normalize path = .ok key ∧ key ≠ ""

/-- This content is the last one that was given to be kept under the key. -/
def LastGiven (given : List (String × ByteArray)) (key : String) (content : ByteArray) : Prop :=
  ∃ before path after, given = before ++ (path, content) :: after ∧ GoesTo path key ∧
    ∀ f ∈ after, ¬ GoesTo f.1 key

/-- The files answer for every path as the map that keeps what was given last. -/
structure MapOf (files : MemoryFiles) (given : List (String × ByteArray)) : Prop where
  read {path key : String} (hk : Path.normalize path = .ok key) (content : ByteArray) :
    files.toStore.read path = .ok content ↔ LastGiven given key content
  missing {path key : String} (hk : Path.normalize path = .ok key) :
    files.toStore.read path = .error (.assetNotFound path) ↔
      ∀ content, ¬ LastGiven given key content
  isFile {path key : String} (hk : Path.normalize path = .ok key) :
    files.toStore.isFile path = true ↔ ∃ content, LastGiven given key content
  list {path key : String} (hk : Path.normalize path = .ok key) :
    ∃ paths, files.toStore.list path = .ok paths ∧
      paths.Pairwise (Text.bytesOf · < Text.bytesOf ·) ∧
      ∀ q, q ∈ paths ↔ (∃ f ∈ given, GoesTo f.1 q) ∧ Path.Under key q
  refused {path : String} {refusal : Path.Refusal} (hk : Path.normalize path = .error refusal) :
    files.toStore.read path = .error (.invalidPath refusal) ∧
      files.toStore.list path = .error (.invalidPath refusal) ∧
      files.toStore.isFile path = false

/-! ### Putting in one file -/

lemma goesTo_iff_of_normalize {normal : String} (h : Path.normalize path = .ok normal) :
    GoesTo path key ↔ key = normal ∧ normal ≠ "" := by
  rw [GoesTo, h, Except.ok.injEq]
  constructor
  · rintro ⟨rfl, hn⟩
    exact ⟨rfl, hn⟩
  · rintro ⟨rfl, hn⟩
    exact ⟨rfl, hn⟩

lemma insert_of_goesTo (h : GoesTo path key) :
    files.insert path content = .ok (Catalog.insert files key content) := by
  have hkey : key.isEmpty = false := by
    rw [← Bool.not_eq_true, String.isEmpty_iff]
    exact h.2
  rw [insert, normalizePath, h.1]
  simp [Except.mapError, bind, Except.bind, hkey, pure, Except.pure]

/-- A file is refused if its path is, or is that of the root. -/
lemma insert_of_not_goesTo (files : MemoryFiles) (content : ByteArray)
    (h : ∀ key, ¬ GoesTo path key) :
    ∃ fault, files.insert path content = .error (.invalidPath ⟨path, fault⟩) := by
  cases hn : Path.normalize path with
  | ok key =>
    obtain rfl : key = "" := Decidable.byContradiction fun hne => h key ⟨hn, hne⟩
    exact ⟨.noName, by rw [insert, normalizePath, hn]; rfl⟩
  | error refusal =>
    obtain ⟨fault, rfl⟩ : ∃ fault, refusal = ⟨path, fault⟩ := by
      unfold Path.normalize at hn
      split at hn
      · exact ⟨_, (Except.error.inj hn).symm⟩
      · cases hn
    exact ⟨fault, by rw [insert, normalizePath, hn]; rfl⟩

lemma exists_insert_iff :
    (∃ more, files.insert path content = .ok more) ↔ ∃ key, GoesTo path key := by
  constructor
  · rintro ⟨more, h⟩
    by_contra hn
    obtain ⟨fault, he⟩ := insert_of_not_goesTo files content (not_exists.mp hn)
    rw [h] at he
    cases he
  · rintro ⟨key, h⟩
    exact ⟨_, insert_of_goesTo h⟩

/-- A file that is put in is found under its key, and what is under others stays. -/
lemma find?_tryInsert_of_goesTo {f : String × ByteArray} {k : String} (h : GoesTo f.1 k) :
    (files.tryInsert f).find? key = if key = k then some f.2 else files.find? key := by
  rw [tryInsert, insert_of_goesTo h]
  exact Catalog.find?_insert files k key f.2

lemma tryInsert_of_error {f : String × ByteArray} {e : Error}
    (h : files.insert f.1 f.2 = .error e) : files.tryInsert f = files := by
  rw [tryInsert, h]
  rfl

/-! ### Putting in many -/

lemma not_lastGiven_nil : ¬ LastGiven [] key content := by
  rintro ⟨before, path, after, h, -⟩
  simp at h

lemma lastGiven_cons_iff {f : String × ByteArray} :
    LastGiven (f :: given) key content ↔ LastGiven given key content ∨
      (GoesTo f.1 key ∧ f.2 = content) ∧ ∀ g ∈ given, ¬ GoesTo g.1 key := by
  constructor
  · rintro ⟨before, path, after, h, hp, ha⟩
    cases before with
    | nil =>
      obtain ⟨rfl, rfl⟩ := List.cons.inj h
      exact .inr ⟨⟨hp, rfl⟩, ha⟩
    | cons g before =>
      obtain ⟨rfl, rfl⟩ := List.cons.inj h
      exact .inl ⟨before, path, after, rfl, hp, ha⟩
  · rintro (⟨before, path, after, rfl, hp, ha⟩ | ⟨⟨hp, rfl⟩, ha⟩)
    · exact ⟨f :: before, path, after, rfl, hp, ha⟩
    · exact ⟨[], f.1, given, rfl, hp, ha⟩

/-- Something was given last under a key if anything was. -/
lemma exists_lastGiven_iff :
    (∃ content, LastGiven given key content) ↔ ∃ f ∈ given, GoesTo f.1 key := by
  induction given with
  | nil => simp [not_lastGiven_nil]
  | cons f given ih =>
    simp only [lastGiven_cons_iff, exists_or, ih, List.mem_cons, exists_eq_or_imp]
    constructor
    · rintro (hg | ⟨content, ⟨hf, -⟩, -⟩)
      · exact .inr hg
      · exact .inl hf
    · rintro (hf | hg)
      · by_cases hg : ∃ g ∈ given, GoesTo g.1 key
        · exact .inl hg
        · exact .inr ⟨f.2, ⟨hf, rfl⟩, fun g hm hk => hg ⟨g, hm, hk⟩⟩
      · exact .inl hg

/-- What is found is what was given last, or what was there if nothing was given. -/
lemma find?_insertEach :
    (files.insertEach given).find? key = some content ↔
      LastGiven given key content ∨
        (∀ f ∈ given, ¬ GoesTo f.1 key) ∧ files.find? key = some content := by
  induction given generalizing files with
  | nil => simp [insertEach, not_lastGiven_nil]
  | cons f given ih =>
    have hstep : (files.tryInsert f).find? key = some content ↔
        (GoesTo f.1 key ∧ f.2 = content) ∨ ¬ GoesTo f.1 key ∧ files.find? key = some content := by
      by_cases hf : ∃ k, GoesTo f.1 k
      · obtain ⟨k, hk⟩ := hf
        rw [find?_tryInsert_of_goesTo hk, goesTo_iff_of_normalize hk.1]
        by_cases he : key = k
        · simp [he, hk.2]
        · simp [he]
      · obtain ⟨fault, he⟩ := insert_of_not_goesTo files f.2 (not_exists.mp hf)
        rw [tryInsert_of_error he]
        simp [not_exists.mp hf key]
    show ((files.tryInsert f).insertEach given).find? key = some content ↔ _
    rw [ih, hstep, lastGiven_cons_iff, List.forall_mem_cons]
    tauto

/-- A file that is refused might as well not be given. -/
lemma insertEach_of_refused {before after : List (String × ByteArray)} {f : String × ByteArray}
    {e : Error} (h : (files.insertEach before).insert f.1 f.2 = .error e) :
    files.insertEach (before ++ f :: after) = files.insertEach (before ++ after) := by
  simp only [insertEach, List.foldl_append, List.foldl_cons] at h ⊢
  rw [tryInsert_of_error h]

/-! ### Answers -/

lemma under_iff {folder path : String} :
    isUnder folder.toList path.toList = true ↔ Path.Under folder path := by
  rw [isUnder_iff, Path.Under]
  refine or_congr (by simp) (or_congr String.toList_inj ⟨?_, ?_⟩)
  · rintro ⟨rest, h⟩
    refine ⟨String.ofList rest, String.toList_injective ?_⟩
    simpa using h
  · rintro ⟨rest, rfl⟩
    exact ⟨rest.toList, by simp⟩

/-- The list of a folder holds the keys under it, in the order of their bytes. -/
lemma exists_list_eq (files : MemoryFiles) (hk : Path.normalize path = .ok key) :
    ∃ paths, files.list path = .ok paths ∧ paths.Pairwise (Text.bytesOf · < Text.bytesOf ·) ∧
      ∀ q, q ∈ paths ↔ q ∈ files.keys ∧ Path.Under key q := by
  have hlist : files.list path =
      .ok (files.keys.filter fun q => isUnder key.toList q.toList) := by
    rw [list, normalizePath, hk]
    rfl
  refine ⟨_, hlist, ?_, fun q => ?_⟩
  · exact (files.increasing.filter _).imp Text.bytesOf_lt_iff.mpr
  · rw [List.mem_filter, under_iff]

/-- A path with a normal form is missing exactly if nothing is found under it. -/
lemma read_eq_error_iff (files : MemoryFiles) (hk : Path.normalize path = .ok key) :
    files.toStore.read path = .error (.assetNotFound path) ↔
      ∀ content, files.find? key ≠ some content := by
  show read _ path = _ ↔ _
  rw [read, normalizePath, hk]
  simp only [Except.mapError, bind, Except.bind]
  cases Catalog.find? files key <;> simp [pure, Except.pure]

/-- A path that is refused is refused by whatever takes it, and is not that of a file. -/
lemma refused_of_normalize (files : MemoryFiles) {refusal : Path.Refusal}
    (hk : Path.normalize path = .error refusal) :
    files.toStore.read path = .error (.invalidPath refusal) ∧
      files.toStore.list path = .error (.invalidPath refusal) ∧
      files.toStore.isFile path = false := by
  refine ⟨?_, ?_, ?_⟩
  · show read _ path = _
    rw [read, normalizePath, hk]
    rfl
  · show list _ path = _
    rw [list, normalizePath, hk]
    rfl
  · show isFile _ path = _
    rw [isFile, hk]

/-- The keys are the normal forms of what was given. -/
lemma mem_keys_iff (hfind : ∀ content, files.find? key = some content ↔
    LastGiven given key content) : key ∈ files.keys ↔ ∃ f ∈ given, GoesTo f.1 key := by
  rw [← exists_lastGiven_iff]
  simp only [← hfind]
  rw [← Option.isSome_iff_exists]
  exact isSome_lookup_iff.symm

lemma mapOf_of_find? (hfind : ∀ key content, files.find? key = some content ↔
    LastGiven given key content) : MapOf files given where
  read hk content := (read_eq_ok_iff hk).trans (hfind _ content)
  missing hk := by simp only [read_eq_error_iff files hk, Ne, hfind]
  isFile {path key} hk := by
    have hread (content : ByteArray) :
        files.toStore.read path = .ok content ↔ LastGiven given key content :=
      (read_eq_ok_iff hk).trans (hfind key content)
    simp only [← hread]
    exact isFile_eq_true_iff
  list hk := by
    obtain ⟨paths, hlist, hsorted, hmem⟩ := exists_list_eq files hk
    exact ⟨paths, hlist, hsorted, fun q => by rw [hmem, mem_keys_iff (hfind q)]⟩
  refused := refused_of_normalize files

/-- **Files in memory are a map from the normal forms of paths.** A file is kept unless its path is
refused or is the root; and after any files were given to be kept, some of which may have been
refused, every path is answered for by what was given last. Files that were refused change
nothing. -/
theorem mapOf_insertEach (given : List (String × ByteArray)) :
    MapOf (insertEach Catalog.empty given) given ∧
      (∀ (files : MemoryFiles) path content,
        (∃ more, files.insert path content = .ok more) ↔ ∃ key, GoesTo path key) ∧
      ∀ before f after e, given = before ++ f :: after →
        (insertEach Catalog.empty before).insert f.1 f.2 = .error e →
        insertEach Catalog.empty (before ++ after) = insertEach Catalog.empty given := by
  refine ⟨mapOf_of_find? fun key content => ?_, fun files path content => exists_insert_iff, ?_⟩
  · rw [find?_insertEach]
    simp [Catalog.find?, Catalog.empty]
  · rintro before f after e rfl h
    exact (insertEach_of_refused h).symm

/-- Two spellings of one path, a name that goes on from that of the folder, and a refused path. -/
def spelledDifferently : List (String × ByteArray) :=
  [("sub/./a", "1".toUTF8), ("subway/b", "2".toUTF8), ("../c", "3".toUTF8), ("sub//a", "4".toUTF8),
   ("sub-b", "5".toUTF8)]

theorem mapOf_spelledDifferently :
    (insertEach Catalog.empty spelledDifferently).toStore.read "x/../sub/a" = .ok "4".toUTF8 ∧
      (insertEach Catalog.empty spelledDifferently).toStore.list "./sub" = .ok ["sub/a"] ∧
      (insertEach Catalog.empty spelledDifferently).toStore.list "" =
        .ok ["sub-b", "sub/a", "subway/b"] ∧
      (insertEach Catalog.empty spelledDifferently).toStore.isFile "../c" = false := by
  obtain ⟨hmap, -, -⟩ := mapOf_insertEach spelledDifferently
  have hkey : Path.normalize "x/../sub/a" = .ok "sub/a" := by rfl
  have hup : Path.normalize "../c" = .error ⟨"../c", .aboveRoot⟩ := by rfl
  have hlast : LastGiven spelledDifferently "sub/a" "4".toUTF8 := by
    refine ⟨spelledDifferently.take 3, "sub//a", [("sub-b", "5".toUTF8)], rfl, ⟨by rfl, by decide⟩,
      List.forall_mem_singleton.mpr ?_⟩
    rintro ⟨hb, -⟩
    exact absurd hb (by decide +kernel)
  exact ⟨(hmap.read hkey _).mpr hlast, by decide +kernel, by decide +kernel, (hmap.refused hup).2.2⟩

end MemoryFiles
end SvgSkeleton
