import SvgSkeleton.Config.Settings
import SvgSkeleton.Manifest.Tag
import SvgSkeleton.Markup.Inlined
import SvgSkeleton.Path
import SvgSkeleton.Template

/-!
Why a run fails. Every cause has a kind, by which users tell failures apart, and a message.

An include can fail for the folders around it: those whose manifests are being resolved, each
included by the one before it. The outermost one is the folder of the whole picture, so a chain is
never empty.
-/

namespace SvgSkeleton

/-! ### Chains of includes -/

/-- A folder's path as it is shown: the root is a dot. -/
def shownFolder (folder : String) : String := if folder.isEmpty then "." else folder

/-- Folders as they are shown, with arrows between them. -/
def shownFolders (folders : List String) : String :=
  String.intercalate " -> " (folders.map shownFolder)

/-- A chain of folders: the innermost one, and those around it from the inside out. -/
structure IncludeChain where
  innermost : String
  around : List String
  deriving DecidableEq, Repr

namespace IncludeChain

/-- The chain of a folder that nothing includes. -/
def root (folder : String) : IncludeChain := ⟨folder, []⟩

/-- The chain with one more folder inside. -/
def push (c : IncludeChain) (folder : String) : IncludeChain :=
  ⟨folder, c.innermost :: c.around⟩

/-- The folders from the inside out. -/
def toList (c : IncludeChain) : List String := c.innermost :: c.around

def contains (c : IncludeChain) (folder : String) : Bool := c.toList.contains folder

/-- The number of folders. -/
def depth (c : IncludeChain) : Nat := c.toList.length

/-- The folders from the outside in, with arrows between them. -/
def describe (c : IncludeChain) : String := shownFolders c.toList.reverse

end IncludeChain

/-! ### Failures -/

/-- The kind of a failure. -/
inductive ErrorKind where
  | io
  | manifestNotFound
  | manifestParse
  | manifestCompile
  | validation
  | assetNotFound
  | unknownImageKind
  | unknownBundledFont
  | unresolvedVariable
  | cyclicInclude
  | maxDepthExceeded
  | invalidPath
  | invalidUtf8
  | malformedSvg
  | config
  deriving DecidableEq, Repr

def ErrorKind.name : ErrorKind → String
  | .io => "IoError"
  | .manifestNotFound => "ManifestNotFound"
  | .manifestParse => "ManifestParseError"
  | .manifestCompile => "ManifestCompileError"
  | .validation => "ValidationError"
  | .assetNotFound => "AssetNotFound"
  | .unknownImageKind => "UnknownImageKind"
  | .unknownBundledFont => "UnknownBundledFont"
  | .unresolvedVariable => "UnresolvedVariable"
  | .cyclicInclude => "CyclicInclude"
  | .maxDepthExceeded => "MaxDepthExceeded"
  | .invalidPath => "InvalidPath"
  | .invalidUtf8 => "InvalidUtf8"
  | .malformedSvg => "MalformedSvg"
  | .config => "ConfigError"

inductive Error where
  | io (reason : OsError)
  | notWatched (reason : OsError)
  | notListed (folder : String) (reason : OsError)
  | noManifest (folder : String)
  | noRoot (path : String) (reason : OsError)
  | rootNotFolder (path : String)
  | notJson (path : String) (reason : Json.SyntaxError)
  | notCompiled (path : String) (reason : Template.Failure)
  | invalidManifest (path : String) (reason : Manifest.Invalid)
  | assetNotFound (path : String)
  | unknownImageKind (path : String) (kind : Option String)
  | unknownBundledFont (name : String)
  | unresolvedVariable (name element : String)
  | cyclicInclude (folder : String) (chain : IncludeChain)
  | maxDepthExceeded (limit : Nat) (path : String)
  | invalidPath (refusal : Path.Refusal)
  | invalidUtf8 (path : String)
  | malformedSvg (path : String) (reason : Markup.SvgFault)
  | config (reason : Config.Fault)
  deriving DecidableEq, Repr

namespace Error

def kind : Error → ErrorKind
  | .io _ | .notWatched _ | .notListed .. => .io
  | .noManifest _ | .noRoot .. | .rootNotFolder _ => .manifestNotFound
  | .notJson .. => .manifestParse
  | .notCompiled .. => .manifestCompile
  | .invalidManifest .. => .validation
  | .assetNotFound _ => .assetNotFound
  | .unknownImageKind .. => .unknownImageKind
  | .unknownBundledFont _ => .unknownBundledFont
  | .unresolvedVariable .. => .unresolvedVariable
  | .cyclicInclude .. => .cyclicInclude
  | .maxDepthExceeded .. => .maxDepthExceeded
  | .invalidPath _ => .invalidPath
  | .invalidUtf8 _ => .invalidUtf8
  | .malformedSvg .. => .malformedSvg
  | .config _ => .config

/-- A text between single quotes. -/
def inQuotes (s : String) : String := "'" ++ s ++ "'"

def noManifestIn (place : String) : String :=
  "No manifest found in " ++ inQuotes place ++ " (expected collagen.jsonnet or collagen.json)"

def message : Error → String
  | .io reason => "IO error: " ++ reason.message
  | .notWatched reason => "IO error: Failed to watch folder: " ++ reason.message
  | .notListed folder reason =>
    "IO error: Directory traversal error: IO error for operation on " ++ folder ++ ": "
      ++ reason.message
  | .noManifest folder => noManifestIn (shownFolder folder)
  | .noRoot path reason => noManifestIn (path ++ ": " ++ reason.message)
  | .rootNotFolder path => noManifestIn (path ++ ": not a directory")
  | .notJson path reason =>
    "Failed to parse manifest " ++ inQuotes path ++ ": " ++ reason.message
  | .notCompiled path reason =>
    "Failed to compile manifest " ++ inQuotes path ++ ": " ++ reason.message
  | .invalidManifest path reason =>
    "Invalid manifest " ++ inQuotes path ++ " at " ++ reason.location.text ++ ": "
      ++ reason.fault.message
  | .assetNotFound path => "Asset not found: " ++ inQuotes path
  | .unknownImageKind path kind =>
    "Cannot determine image type of " ++ inQuotes path ++
      match kind with
      | some kind => " (kind " ++ inQuotes kind ++ " is not supported)"
      | none => ""
  | .unknownBundledFont name => "Unknown bundled font " ++ inQuotes name
  | .unresolvedVariable name element =>
    "Unresolved variable " ++ inQuotes name ++ " in <" ++ element ++ ">"
  | .cyclicInclude folder chain =>
    "Cyclic include of " ++ inQuotes (shownFolder folder) ++ " (include chain: "
      ++ (chain.push folder).describe ++ ")"
  | .maxDepthExceeded limit path =>
    "Maximum include depth (" ++ toString limit ++ ") exceeded at " ++ inQuotes path
  | .invalidPath refusal =>
    "Invalid path " ++ inQuotes refusal.path ++ ": " ++ refusal.fault.message
  | .invalidUtf8 path => "File " ++ inQuotes path ++ " is not valid UTF-8"
  | .malformedSvg path reason => "Malformed SVG " ++ inQuotes path ++ ": " ++ reason.message
  | .config reason => "Configuration error: " ++ reason.message

end Error

/-- The outcome of a step of a run. -/
abbrev Outcome (α : Type) := Except Error α

/-- The normal form of a path; see `Path.normalize`. -/
def normalizePath (path : String) : Outcome String := (Path.normalize path).mapError .invalidPath

/-- A path taken from a folder; see `Path.join`. -/
def joinPath (base relative : String) : Outcome String :=
  (Path.join base relative).mapError .invalidPath

theorem normalizePath_eq_ok {path n : String} (h : normalizePath path = .ok n) :
    Path.normalize path = .ok n := by
  unfold normalizePath at h
  cases hp : Path.normalize path with
  | error r => rw [hp] at h; cases h
  | ok p => rw [hp] at h; exact congrArg _ (Except.ok.inj h)

theorem joinPath_eq_ok {base relative path : String} (h : joinPath base relative = .ok path) :
    Path.join base relative = .ok path := by
  unfold joinPath at h
  cases hp : Path.join base relative with
  | error r => rw [hp] at h; cases h
  | ok p => rw [hp] at h; exact congrArg _ (Except.ok.inj h)

end SvgSkeleton
