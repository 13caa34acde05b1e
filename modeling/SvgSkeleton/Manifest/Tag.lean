import SvgSkeleton.Scope

/-!
Tags: what a manifest says about a picture, once it has been validated. Each kind of tags has one
key that marks it and a list of keys that it may have. What can be wrong with a manifest is said with
the place where it is wrong.
-/

namespace SvgSkeleton.Manifest

/-! ### Kinds and tags -/

inductive Kind where
  | container
  | image
  | font
  | nestedSvg
  | text
  | generic
  deriving DecidableEq, Repr

namespace Kind

/-- All kinds, in the order in which their marks are looked for and listed. -/
def all : List Kind := [.container, .image, .font, .nestedSvg, .text, .generic]

/-- The key that marks a tag of the kind. -/
def mark : Kind → String
  | .container => "clgn_path"
  | .image => "image_path"
  | .font => "fonts"
  | .nestedSvg => "svg_path"
  | .text => "text"
  | .generic => "tag"

/-- All keys that a tag of the kind may have, its mark first. -/
def keys : Kind → List String
  | .container => ["clgn_path"]
  | .image => ["image_path", "kind", "attrs", "children", "vars"]
  | .font => ["fonts", "attrs"]
  | .nestedSvg => ["svg_path", "attrs"]
  | .text => ["text", "is_preescaped"]
  | .generic => ["tag", "attrs", "children", "vars"]

def name : Kind → String
  | .container => "container"
  | .image => "image"
  | .font => "font"
  | .nestedSvg => "nested svg"
  | .text => "text"
  | .generic => "generic"

end Kind

/-- The keys of a manifest that is not itself a tag. -/
def rootKeys : List String := ["attrs", "children", "vars"]

/-- The keys of a font face. -/
def fontFaceKeys : List String := ["name", "bundled", "path", "attrs"]

/-- Where the bytes of a font come from. -/
inductive FontSource where
  | bundled
  | file (path : String)
  deriving DecidableEq, Repr

/-- A font face, with the further descriptors of its rule in order. -/
structure FontFace where
  name : String
  source : FontSource
  attrs : Bindings
  deriving DecidableEq, Repr

/-- A tag. The children of a tag without a list of them are `none`. -/
inductive Tag where
  | container (folder : String)
  | image (path : String) (kind : Option String) (attrs vars : Bindings)
      (children : Option (List Tag))
  | font (faces : List FontFace) (attrs : Bindings)
  | nestedSvg (path : String) (attrs : Bindings)
  | text (content : String) (raw : Bool)
  | generic (name : String) (attrs vars : Bindings) (children : Option (List Tag))
  deriving Repr

def Tag.kind : Tag → Kind
  | .container .. => .container
  | .image .. => .image
  | .font .. => .font
  | .nestedSvg .. => .nestedSvg
  | .text .. => .text
  | .generic .. => .generic

/-- A whole manifest. -/
structure Root where
  attrs : Bindings
  vars : Bindings
  children : Option (List Tag)
  deriving Repr

end SvgSkeleton.Manifest

namespace SvgSkeleton.Manifest

/-! ### Faults and where they are -/

/-- A step from a value of a manifest to one inside it. -/
inductive Step where
  | children
  | fonts
  | attrs
  | vars
  | item (index : Nat)
  deriving DecidableEq, Repr

def Step.text : Step → String
  | .children => ".children"
  | .fonts => ".fonts"
  | .attrs => ".attrs"
  | .vars => ".vars"
  | .item index => "[" ++ toString index ++ "]"

/-- A place in a manifest: the steps to it from a start. -/
structure Location where
  start : String
  steps : List Step
  deriving DecidableEq, Repr

namespace Location

/-- The place of a whole manifest. -/
def root : Location := ⟨"root", []⟩

/-- One step further inside. -/
def step (l : Location) (s : Step) : Location := ⟨l.start, l.steps ++ [s]⟩

def text (l : Location) : String := l.start ++ String.join (l.steps.map Step.text)

end Location

/-- What is wrong with the value at a place. -/
inductive Fault where
  | rootNotObject (found : String)
  | notTag (found : String)
  | noMark
  | severalMarks (kinds : List Kind)
  | unexpectedKeys (keys : List String) (owner : String) (allowed : List String)
  | missingKey (key : String)
  | wrongType (key expected found : String)
  | notScalar (name found : String)
  | emptyTagName
  | badVariableName (name : String)
  | faceNotObject (found : String)
  | severalSources
  | bundledFalse
  | noSource
  deriving DecidableEq, Repr

/-- Texts in single quotes, with commas between them. -/
def quoted (items : List String) : String :=
  String.intercalate ", " (items.map fun s => "'" ++ s ++ "'")

def Fault.message : Fault → String
  | .rootNotObject found => "manifest must be an object, found " ++ found
  | .notTag found => "expected a tag object or string, found " ++ found
  | .noMark => "object has no tag key; expected exactly one of " ++ quoted (Kind.all.map Kind.mark)
  | .severalMarks kinds => "object has conflicting tag keys " ++ quoted (kinds.map Kind.mark)
  | .unexpectedKeys keys owner allowed =>
    "unexpected key" ++ (if keys.length = 1 then "" else "s") ++ " " ++ quoted keys ++ " for "
      ++ owner ++ " tag; allowed keys are " ++ quoted allowed
  | .missingKey key => "missing required key '" ++ key ++ "'"
  | .wrongType key expected found => "'" ++ key ++ "' must be " ++ expected ++ ", found " ++ found
  | .notScalar name found =>
    "value of '" ++ name ++ "' must be a string or number, found " ++ found
  | .emptyTagName => "'tag' must not be empty"
  | .badVariableName name => "'" ++ name ++ "' is not a valid variable name"
  | .faceNotObject found => "font face must be an object, found " ++ found
  | .severalSources => "font face cannot have both 'bundled' and 'path'"
  | .bundledFalse => "'bundled' must be true when given"
  | .noSource => "font face needs one of 'bundled' or 'path'"

/-- A fault and its place. -/
structure Invalid where
  location : Location
  fault : Fault
  deriving DecidableEq, Repr

end SvgSkeleton.Manifest
