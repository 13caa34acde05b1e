import SvgSkeleton.Json.Reader
import SvgSkeleton.Manifest.Validation
import SvgSkeleton.Store

/-!
Loading the manifest of a folder: find its file, compile it if it is a template, read it as JSON
and validate it. Where a folder has both files, the template wins.
-/

namespace SvgSkeleton.Manifest

inductive Format where
  | template
  | plain
  deriving DecidableEq, Repr

def Format.fileName : Format → String
  | .template => "collagen.jsonnet"
  | .plain => "collagen.json"

theorem Format.fileName_mem (f : Format) : f.fileName ∈ manifestNames := by
  cases f <;> simp [fileName, manifestNames]

/-- A manifest and where it was found. -/
structure Loaded where
  root : Root
  folder : String
  path : String
  format : Format
  sourceSize : Nat

/-- The path of the manifest file of a folder. -/
def locate (s : Store) (folder : String) : Outcome (String × Format) :=
  match joinPath folder Format.template.fileName with
  | .error e => .error e
  | .ok template =>
    if s.isFile template then .ok (template, .template)
    else
      match joinPath folder Format.plain.fileName with
      | .error e => .error e
      | .ok plain =>
        if s.isFile plain then .ok (plain, .plain) else .error (.noManifest folder)

/-- A folder's place on disk, for a store that has one. -/
def searchFolder (s : Store) (folder : String) : Option String :=
  s.localRoot.map fun root =>
    ((Path.segments folder.toList).filter (· ≠ [])).foldl
      (fun place name =>
        (if place.endsWith "/" then place else place ++ "/") ++ String.ofList name) root

/-- What a template in a folder can import. -/
def imports (s : Store) (folder : String) : Template.Imports where
  read path := (joinPath folder path >>= s.readText).toOption
  searchFolder := searchFolder s folder

/-- The JSON text of a manifest. -/
def compile (s : Store) (compiler : Option Template.Compiler) (folder path source : String) :
    Format → Outcome String
  | .plain => .ok source
  | .template =>
    match compiler with
    | none => .error (.notCompiled path .noCompiler)
    | some compiler => (compiler source (imports s folder)).mapError (.notCompiled path)

/-- The manifest that a JSON text holds. -/
def ofText (path text : String) : Outcome Root := do
  let value ← (Json.parse text).mapError (.notJson path)
  (ofJson value).mapError (.invalidManifest path)

/-- The manifest of a folder. -/
def load (s : Store) (compiler : Option Template.Compiler) (folder : String) : Outcome Loaded := do
  let (path, format) ← locate s folder
  let source ← s.readText path
  let text ← compile s compiler folder path source format
  let root ← ofText path text
  return ⟨root, folder, path, format, source.utf8ByteSize⟩

theorem exists_file_of_locate {s : Store} {folder : String} {found : String × Format}
    (h : locate s folder = .ok found) :
    joinPath folder found.2.fileName = .ok found.1 ∧ s.isFile found.1 = true := by
  simp only [locate] at h
  split at h
  · simp at h
  · next template ht =>
    split at h
    · next hf =>
      obtain rfl := Except.ok.inj h
      exact ⟨ht, hf⟩
    · split at h
      · simp at h
      · next plain hp =>
        split at h
        · next hf =>
          obtain rfl := Except.ok.inj h
          exact ⟨hp, hf⟩
        · simp at h

theorem exists_locate_of_load {s : Store} {compiler : Option Template.Compiler} {folder : String}
    {m : Loaded} (h : load s compiler folder = .ok m) : ∃ found, locate s folder = .ok found := by
  cases hl : locate s folder with
  | error e => simp [load, hl, bind, Except.bind] at h
  | ok found => exact ⟨found, rfl⟩

/-- A folder with a manifest is one of the store's finitely many. -/
theorem mem_folders_of_load {s : Store} {compiler : Option Template.Compiler}
    {folder canonical : String} {m : Loaded} (h : load s compiler folder = .ok m)
    (hc : s.canonicalFolder folder = .ok canonical) : canonical ∈ s.folders := by
  obtain ⟨found, hl⟩ := exists_locate_of_load h
  obtain ⟨hj, hf⟩ := exists_file_of_locate hl
  exact s.mem_folders found.2.fileName_mem hj hf hc

end SvgSkeleton.Manifest
