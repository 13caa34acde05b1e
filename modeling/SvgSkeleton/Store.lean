import SvgSkeleton.Catalog
import SvgSkeleton.Error
import SvgSkeleton.Path.Lemmas
import SvgSkeleton.Text.Character

/-!
Where manifests and assets are read from: files by their paths from the root of a skeleton. A store
answers for paths in any spelling, and knows which spellings denote the same folder. Files can be
kept in memory, by the normal forms of their paths.
-/

namespace SvgSkeleton

/-- The names that a manifest file may have, the one that wins first. -/
def manifestNames : List String := ["collagen.jsonnet", "collagen.json"]

theorem ordinary_manifestName {name : String} (h : name ∈ manifestNames) :
    Path.Ordinary name.toList := by
  simp only [manifestNames, List.mem_cons, List.not_mem_nil, or_false] at h
  rcases h with rfl | rfl <;> exact ⟨by decide, by decide, by decide⟩

/-- A collection of files. The folders in which manifests are found have finitely many paths. -/
structure Store where
  read : String → Outcome ByteArray
  isFile : String → Bool
  list : String → Outcome (List String)
  /-- The absolute path of the root, if the store is a folder on disk. -/
  localRoot : Option String
  /-- One path for all spellings of the path of a folder. -/
  canonicalFolder : String → Outcome String
  exists_folders : ∃ folders : List String, ∀ {folder name path canonical : String},
    name ∈ manifestNames → joinPath folder name = .ok path → isFile path = true →
    canonicalFolder folder = .ok canonical → canonical ∈ folders

namespace Store

/-- Paths that those of all folders with manifests are among. -/
noncomputable def folders (s : Store) : List String := s.exists_folders.choose

theorem mem_folders (s : Store) {folder name path canonical : String} (hn : name ∈ manifestNames)
    (hj : joinPath folder name = .ok path) (hf : s.isFile path = true)
    (hc : s.canonicalFolder folder = .ok canonical) : canonical ∈ s.folders :=
  s.exists_folders.choose_spec hn hj hf hc

/-- The content of a file as text. -/
def readText (s : Store) (path : String) : Outcome String := do
  match Text.decode? (← s.read path) with
  | some text => return text
  | none => .error (.invalidUtf8 path)

end Store

/-! ### Files in memory -/

/-- Files in memory: their contents by their paths. -/
abbrev MemoryFiles := Catalog ByteArray

namespace MemoryFiles

/-- Put a file in, in place of one that has the same path. -/
def insert (files : MemoryFiles) (path : String) (content : ByteArray) : Outcome MemoryFiles := do
  let key ← normalizePath path
  if key.isEmpty then .error (.invalidPath ⟨path, .noName⟩)
  else return Catalog.insert files key content

/-- Is the path that of the folder, or of something inside it? The root is the empty path. -/
def isUnder (folder path : List Char) : Bool :=
  folder.isEmpty ||
    match folder.isPrefixOf? path with
    | none => false
    | some rest => rest.isEmpty || Path.startsWithSlash rest

/-- The content of a file. -/
def read (files : MemoryFiles) (path : String) : Outcome ByteArray := do
  match files.find? (← normalizePath path) with
  | some content => return content
  | none => .error (.assetNotFound path)

/-- Is there a file with this path? -/
def isFile (files : MemoryFiles) (path : String) : Bool :=
  match Path.normalize path with
  | .ok key => files.contains key
  | .error _ => false

/-- The paths under a folder, in order. -/
def list (files : MemoryFiles) (folder : String) : Outcome (List String) := do
  let folder ← normalizePath folder
  return files.keys.filter fun key => isUnder folder.toList key.toList

/-- The folders that hold files. -/
def folders (files : MemoryFiles) : List String := files.keys.map Path.parent

/-- A file with a name of a manifest is kept under the normal form of its folder and its name. -/
theorem exists_key {files : MemoryFiles} {folder name path canonical : String}
    (hn : name ∈ manifestNames) (hj : joinPath folder name = .ok path)
    (hf : files.isFile path = true) (hc : normalizePath folder = .ok canonical) :
    ∃ names, canonical = String.ofList (Path.ofSegments names) ∧
      String.ofList (Path.ofSegments (names ++ [name.toList])) ∈ files.keys := by
  have hord := ordinary_manifestName hn
  obtain ⟨names, hr, rfl⟩ := Path.normalize_eq_ok (normalizePath_eq_ok hc)
  have hp := Path.join_name hord hr (joinPath_eq_ok hj)
  refine ⟨names, rfl, ?_⟩
  simp only [isFile] at hf
  split at hf
  · next key hk =>
    obtain ⟨got, hg, rfl⟩ := Path.normalize_eq_ok hk
    rw [hp, String.toList_ofList] at hg
    have := Path.resolve_ofSegments (by
      intro s hs
      rcases List.mem_append.mp hs with hs | hs
      · exact Path.ordinary_of_resolve hr s hs
      · exact List.mem_singleton.mp hs ▸ hord) hg
    subst this
    exact Catalog.mem_keys_of_find? hf
  · simp at hf

theorem mem_folders (files : MemoryFiles) {folder name path canonical : String}
    (hn : name ∈ manifestNames) (hj : joinPath folder name = .ok path)
    (hf : files.isFile path = true) (hc : normalizePath folder = .ok canonical) :
    canonical ∈ files.folders := by
  obtain ⟨names, rfl, hm⟩ := exists_key hn hj hf hc
  exact List.mem_map.mpr ⟨_, hm, Path.parent_ofSegments (ordinary_manifestName hn)⟩

/-- The files as a store. -/
def toStore (files : MemoryFiles) : Store where
  read := files.read
  isFile := files.isFile
  list := files.list
  localRoot := none
  canonicalFolder := normalizePath
  exists_folders := ⟨files.folders, files.mem_folders⟩

/-- Put in the file of a store that has this path. -/
def copyFile (s : Store) (files : MemoryFiles) (path : String) : Outcome MemoryFiles := do
  return Catalog.insert files path (← s.read path)

/-- A copy of every file of a store. -/
def ofStore (s : Store) : Outcome MemoryFiles := do
  (← s.list "").foldlM (copyFile s) Catalog.empty

end MemoryFiles
end SvgSkeleton
