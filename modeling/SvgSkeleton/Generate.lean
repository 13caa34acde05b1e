import SvgSkeleton.Markup.Element
import SvgSkeleton.Resolve
import SvgSkeleton.Store.Disk
import SvgSkeleton.Store

/-!
From a skeleton to a document: load the manifest at the root, resolve it, and write the picture.
-/

namespace SvgSkeleton

/-- How deep folders may be included in one another, if nothing else is said. -/
def defaultMaxDepth : Nat := 64

/-- The settings of a run. The variables are in scope for the manifest at the root only. -/
structure Options where
  debug : Bool
  maxDepth : Nat
  vars : List (String × String)
  fonts : FontTable
  compiler : Option Template.Compiler

/-- A finished document. -/
structure Document where
  svg : String
  sourceSize : Nat
  stats : Stats

/-- The size of a document in bytes. -/
def Document.outputSize (d : Document) : Nat := d.svg.utf8ByteSize

/-- A run that starts to count from zero. -/
def Run.outcome {α : Type} (r : Run α) : Outcome (α × Stats) :=
  match r.start .zero with
  | (.ok value, stats) => .ok (value, stats)
  | (.error e, _) => .error e

/-- Variables as a frame of a scope; their names must be identifiers. -/
def frameOf (vars : List (String × String)) : Outcome Bindings :=
  match vars.find? (!Text.isIdentifier ·.1) with
  | some (name, _) => .error (.config (.badVariableName name))
  | none => .ok (vars.map fun v => (v.1, .text v.2))

/-- What resolving needs of a store and options. -/
def Options.setting (o : Options) (store : Store) : Resolve.Setting :=
  ⟨store, o.fonts, o.compiler, o.maxDepth⟩

/-- The document of the skeleton in a store. -/
def generate (store : Store) (options : Options) : Outcome Document := do
  let manifest ← Manifest.load store options.compiler ""
  let globals ← frameOf options.vars
  let (svg, stats) ← (Resolve.document (options.setting store) manifest globals).outcome
  return ⟨Markup.printElement svg, manifest.sourceSize, stats⟩

/-- The document of a folder of a tree. -/
def generateFrom (tree : FileTree) (cwd : Place) (folder : String) (options : Options) :
    Outcome Document := do
  let disk ← Disk.ofPath tree cwd folder
  generate disk.toStore options

/-- The document of a folder, and the tree with the document written to a file. -/
def generateFile (tree : FileTree) (cwd : Place) (folder out : String) (options : Options) :
    Outcome (Document × FileTree) := do
  let document ← generateFrom tree cwd folder options
  let tree ← (tree.write cwd (Text.bytesOf out) document.svg.toUTF8).mapError .io
  return (document, tree)

end SvgSkeleton
