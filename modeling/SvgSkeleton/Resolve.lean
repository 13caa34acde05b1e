import SvgSkeleton.Error
import SvgSkeleton.FontTable
import SvgSkeleton.Manifest.Loader
import SvgSkeleton.Markup.Element
import SvgSkeleton.Media
import SvgSkeleton.Scope

/-!
From tags to the tree of a picture. Attributes and text are filled in from the variables in scope,
images and fonts are embedded, SVG files are put in place, and an included folder becomes a group.

The variables of a tag are in scope for the tag and what is inside it; a manifest that is included
starts from an empty scope. A folder that is being resolved cannot be included again inside itself,
so the chain of included folders grows at most to the number of folders in the store; that is why
resolving ends, whatever limit is set on the depth of inclusion.

Runs count what they meet. The counts of a run that fails are kept up to where it failed.
-/

namespace SvgSkeleton

/-- What a run has met so far. -/
structure Stats where
  elements : Nat
  texts : Nat
  images : Nat
  fontFaces : Nat
  includes : Nat
  nestedSvgs : Nat
  interpolations : Nat
  embeddedBytes : Nat
  deriving DecidableEq, Repr

namespace Stats

def zero : Stats := ⟨0, 0, 0, 0, 0, 0, 0, 0⟩

def add (a b : Stats) : Stats :=
  ⟨a.elements + b.elements, a.texts + b.texts, a.images + b.images, a.fontFaces + b.fontFaces,
   a.includes + b.includes, a.nestedSvgs + b.nestedSvgs, a.interpolations + b.interpolations,
   a.embeddedBytes + b.embeddedBytes⟩

instance : Add Stats := ⟨add⟩

/-- Counts of one kind only. -/
def ofElements (n : Nat) : Stats := { zero with elements := n }
def ofText : Stats := { zero with texts := 1 }
def ofImage (bytes : Nat) : Stats :=
  { zero with elements := 1, images := 1, embeddedBytes := bytes }
def ofFontFace (bytes : Nat) : Stats := { zero with fontFaces := 1, embeddedBytes := bytes }
def ofInclude : Stats := { zero with includes := 1 }
def ofNestedSvg : Stats := { zero with elements := 1, nestedSvgs := 1 }
def ofInterpolations (n : Nat) : Stats := { zero with interpolations := n }

end Stats

/-- A run that may fail, and goes on counting from given counts. -/
abbrev Run (α : Type) := ExceptT Error (StateM Stats) α

namespace Run

/-- An outcome as a run that counts nothing. -/
def ofOutcome {α : Type} (o : Outcome α) : Run α := fun stats => (o, stats)

/-- Add to the counts. -/
def count (new : Stats) : Run Unit := fun stats => (.ok (), stats + new)

/-- The outcome of a run and its counts. -/
def start {α : Type} (r : Run α) (stats : Stats) : Outcome α × Stats := r stats

end Run
end SvgSkeleton

namespace SvgSkeleton.Resolve

open Manifest (Tag FontFace FontSource Root)

/-- What stays the same throughout a picture. -/
structure Setting where
  store : Store
  fonts : FontTable
  compiler : Option Template.Compiler
  maxDepth : Nat

/-- What stays the same throughout a manifest: its folder, and how it includes others. -/
structure Surroundings where
  store : Store
  fonts : FontTable
  folder : String
  included : String → Run Element

/-- A text with its placeholders filled in; `element` is named if one is not defined. -/
def fillText (scope : Scope) (element text : String) : Run String := do
  match scope.interpolate text with
  | .error name => throw (.unresolvedVariable name element)
  | .ok (text, n) =>
    Run.count (.ofInterpolations n)
    return text

/-- An attribute with its value filled in. -/
def fillAttr (scope : Scope) (element : String) (a : String × Scalar) : Run (String × String) := do
  match a.2 with
  | .text value => return (a.1, ← fillText scope element value)
  | .number value => return (a.1, value.text)

/-- Attributes with their values filled in. -/
def fillAttrs (scope : Scope) (element : String) (attrs : Bindings) : Run Attributes := do
  return Attributes.ofList (← attrs.mapM (fillAttr scope element))

/-- The kind of an image: the one that is named, else the one that its extension names. -/
def imageKind (path : String) (kind : Option String) : Outcome ImageKind :=
  match (kind.or (Path.extension path)).bind ImageKind.ofName? with
  | some kind => .ok kind
  | none => .error (.unknownImageKind path kind)

/-- The path and the content of an asset. -/
def asset (s : Surroundings) (path : String) : Outcome (String × ByteArray) := do
  let path ← joinPath s.folder path
  return (path, ← s.store.read path)

/-- The bytes of a font and their format. -/
def fontBytes (s : Surroundings) (face : FontFace) : Outcome (ByteArray × FontFormat) := do
  match face.source with
  | .bundled => return (← s.fonts.get face.name, .woff2)
  | .file path =>
    let (path, bytes) ← asset s path
    return (bytes, .ofExtension (Path.extension path))

/-- The rule of a font face. -/
def fontFace (s : Surroundings) (scope : Scope) (face : FontFace) : Run String := do
  let (bytes, format) ← Run.ofOutcome (fontBytes s face)
  let descriptors ← fillAttrs scope "style" face.attrs
  Run.count (.ofFontFace bytes.size)
  return Css.fontFaceRule face.name format bytes descriptors

/-- The definitions of fonts. -/
def font (s : Surroundings) (scope : Scope) (faces : List FontFace) (attrs : Bindings) :
    Run Element := do
  let rules ← faces.mapM (fontFace s scope)
  let attrs ← fillAttrs scope "defs" attrs
  Run.count (.ofElements 2)
  let style := Element.pair "style" .empty [.text (String.join rules) false]
  return .pair "defs" attrs [style.toNode]

/-- The markup of an SVG file. -/
def nestedMarkup (s : Surroundings) (path : String) : Outcome String := do
  let path ← joinPath s.folder path
  (Markup.inner (← s.store.readText path)).mapError (.malformedSvg path)

/-- A group around the markup of an SVG file. -/
def nestedSvg (s : Surroundings) (scope : Scope) (path : String) (attrs : Bindings) :
    Run Element := do
  let markup ← Run.ofOutcome (nestedMarkup s path)
  let attrs ← fillAttrs scope "g" attrs
  Run.count .ofNestedSvg
  return .pair "g" attrs (if markup.isEmpty then [] else [.text markup true])

/-- A piece of text; markup is left as it is. -/
def text (scope : Scope) (content : String) (raw : Bool) : Run Node := do
  Run.count .ofText
  if raw then return .text content true
  else return .text (← fillText scope "text" content) false

/-- The data address of an image and its size. -/
def image (s : Surroundings) (path : String) (kind : Option String) : Outcome (String × Nat) := do
  let (path, bytes) ← asset s path
  let kind ← imageKind path kind
  return (dataUri kind.mediaType bytes, bytes.size)

mutual

/-- The node that a tag becomes. -/
def tag (s : Surroundings) (scope : Scope) : Tag → Run Node
  | .container folder => return (← s.included folder).toNode
  | .image path kind attrs vars kids => do
    let (uri, size) ← Run.ofOutcome (image s path kind)
    let scope := vars :: scope
    let attrs ← fillAttrs scope "image" attrs
    let attrs := (Attributes.empty.set "href" uri).setAll attrs.toList
    let kids ← children s scope kids
    Run.count (.ofImage size)
    return (Element.ofChildren "image" attrs kids).toNode
  | .font faces attrs => return (← font s scope faces attrs).toNode
  | .nestedSvg path attrs => return (← nestedSvg s scope path attrs).toNode
  | .text content raw => text scope content raw
  | .generic name attrs vars kids => do
    let scope := vars :: scope
    let attrs ← fillAttrs scope name attrs
    let kids ← children s scope kids
    Run.count (.ofElements 1)
    return (Element.ofChildren name attrs kids).toNode

/-- The nodes that the children of a tag become, if it has a list of them. -/
def children (s : Surroundings) (scope : Scope) : Option (List Tag) → Run (Option (List Node))
  | none => return none
  | some tags => return some (← tagList s scope tags)

/-- The nodes that tags become, in order. -/
def tagList (s : Surroundings) (scope : Scope) : List Tag → Run (List Node)
  | [] => return []
  | t :: rest => return (← tag s scope t) :: (← tagList s scope rest)

end

/-- The element that a manifest becomes. -/
def root (s : Surroundings) (scope : Scope) (r : Root) : Run Element := do
  let scope := r.vars :: scope
  let attrs ← fillAttrs scope "svg" r.attrs
  let kids ← children s scope r.children
  Run.count (.ofElements 1)
  return .ofChildren "svg" attrs kids

/-- The folders of the store that are not on a chain. -/
noncomputable def unvisited (s : Store) (chain : IncludeChain) : List String :=
  s.folders.filter (!chain.contains ·)

theorem contains_push {chain : IncludeChain} {folder f : String} :
    (chain.push folder).contains f = (f == folder || chain.contains f) := by
  simp only [IncludeChain.push, IncludeChain.contains, IncludeChain.toList, List.contains_cons]

/-- Of the folders of a list, fewer are off a chain when one of them has been put on it. -/
theorem length_filter_push_lt {folders : List String} {chain : IncludeChain} {folder : String}
    (hm : folder ∈ folders) (hc : chain.contains folder = false) :
    (folders.filter (!(chain.push folder).contains ·)).length
      < (folders.filter (!chain.contains ·)).length := by
  have hsplit : folders.filter (!(chain.push folder).contains ·)
      = (folders.filter (!chain.contains ·)).filter (· != folder) := by
    simp only [List.filter_filter]
    congr 1
    funext f
    rw [contains_push]
    cases h : f == folder <;> cases chain.contains f <;> simp [h, bne]
  rw [hsplit]
  exact List.length_filter_lt_length_iff_exists.mpr
    ⟨folder, List.mem_filter.mpr ⟨hm, by simp [hc]⟩, by simp⟩

theorem length_unvisited_push_lt {s : Store} {chain : IncludeChain} {folder : String}
    (hm : folder ∈ s.folders) (hc : chain.contains folder = false) :
    (unvisited s (chain.push folder)).length < (unvisited s chain).length :=
  length_filter_push_lt hm hc

/-- The group that the folder at `path`, seen from `folder`, becomes. -/
def includeFolder (env : Setting) (chain : IncludeChain) (folder path : String) : Run Element :=
  match joinPath folder path with
  | .error e => throw e
  | .ok nested =>
    match hn : env.store.canonicalFolder nested with
    | .error e => throw e
    | .ok canonical =>
      if hc : chain.contains canonical = true then throw (.cyclicInclude nested chain)
      else if chain.depth > env.maxDepth then throw (.maxDepthExceeded env.maxDepth nested)
      else
        match hl : Manifest.load env.store env.compiler nested with
        | .error e => throw e
        | .ok manifest => do
          have : (unvisited env.store (chain.push canonical)).length
              < (unvisited env.store chain).length :=
            length_unvisited_push_lt (Manifest.mem_folders_of_load hl hn) (by simpa using hc)
          let svg ← root
            ⟨env.store, env.fonts, nested, fun path =>
              includeFolder env (chain.push canonical) nested path⟩ [] manifest.root
          Run.count .ofInclude
          return { svg with name := "g" }
termination_by (unvisited env.store chain).length

/-- The name space of SVG. -/
def svgNamespace : String := "http://www.w3.org/2000/svg"

/-- The picture of a manifest, in whose scope `globals` are the outermost variables. -/
def document (env : Setting) (manifest : Manifest.Loaded) (globals : Bindings) : Run Element := do
  let folder ← Run.ofOutcome (env.store.canonicalFolder manifest.folder)
  let svg ← root
    ⟨env.store, env.fonts, manifest.folder, fun path =>
      includeFolder env (.root folder) manifest.folder path⟩ [globals] manifest.root
  return { svg with attrs := svg.attrs.setDefaultFirst "xmlns" svgNamespace }

end SvgSkeleton.Resolve
