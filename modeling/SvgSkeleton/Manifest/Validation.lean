import SvgSkeleton.Json.Value
import SvgSkeleton.Manifest.Tag
import SvgSkeleton.Text.Character

/-!
From JSON to tags. An object is a tag of the one kind whose mark it carries, and may have only the
keys of that kind. Children are a tag or a list, in which further lists are flattened. The first
fault in document order is reported, with its place; inside one object the keys are checked first,
then its parts in the order in which the kind lists them, children before variables.
-/

namespace SvgSkeleton.Manifest

open Json (Members)

/-- The outcome of reading a part of a manifest. -/
abbrev Checked (α : Type) := Except Invalid α

/-- Fail with a fault at a place. -/
def reject {α : Type} (l : Location) (fault : Fault) : Checked α := .error ⟨l, fault⟩

/-- The kinds whose marks an object carries. -/
def marks (m : Members) : List Kind := Kind.all.filter fun k => (m.find? k.mark).isSome

/-- The kind of a tag. -/
def classify (l : Location) (m : Members) : Checked Kind :=
  match marks m with
  | [kind] => .ok kind
  | [] => reject l .noMark
  | kinds => reject l (.severalMarks kinds)

/-- Refuse keys that are not allowed. -/
def checkKeys (l : Location) (m : Members) (owner : String) (allowed : List String) :
    Checked Unit :=
  match m.keys.filter (!allowed.contains ·) with
  | [] => .ok ()
  | keys => reject l (.unexpectedKeys keys owner allowed)

/-- A string, if the key is there. -/
def string? (l : Location) (m : Members) (key : String) : Checked (Option String) :=
  match m.find? key with
  | none => .ok none
  | some (.string s) => .ok (some s)
  | some v => reject l (.wrongType key "a string" v.describe)

/-- A boolean, if the key is there. -/
def bool? (l : Location) (m : Members) (key : String) : Checked (Option Bool) :=
  match m.find? key with
  | none => .ok none
  | some (.bool b) => .ok (some b)
  | some v => reject l (.wrongType key "a boolean" v.describe)

/-- A string that must be there. -/
def string (l : Location) (m : Members) (key : String) : Checked String := do
  match ← string? l m key with
  | some s => .ok s
  | none => reject l (.missingKey key)

/-- A member of an object of strings and numbers. -/
def scalar (l : Location) (m : String × Json) : Checked (String × Scalar) :=
  match m.2 with
  | .string s => .ok (m.1, .text s)
  | .number n => .ok (m.1, .number n)
  | v => reject l (.notScalar m.1 v.describe)

/-- An object of strings and numbers; none is an empty one. -/
def bindings (l : Location) (m : Members) (key : String) (step : Step) : Checked Bindings :=
  match m.find? key with
  | none => .ok []
  | some (.object members) => members.mapM (scalar (l.step step))
  | some v => reject l (.wrongType key "an object" v.describe)

def attributes (l : Location) (m : Members) : Checked Bindings := bindings l m "attrs" .attrs

/-- Variables, whose names must be identifiers. -/
def definitions (l : Location) (m : Members) : Checked Bindings := do
  let vars ← bindings l m "vars" .vars
  match vars.find? (!Text.isIdentifier ·.1) with
  | none => .ok vars
  | some (name, _) => reject (l.step .vars) (.badVariableName name)

/-- The one source of a font face. -/
def fontSource (l : Location) (bundled : Option Bool) (path : Option String) :
    Checked FontSource :=
  match bundled, path with
  | some _, some _ => reject l .severalSources
  | some true, none => .ok .bundled
  | some false, none => reject l .bundledFalse
  | none, some path => .ok (.file path)
  | none, none => reject l .noSource

def fontFace (l : Location) : Json → Checked FontFace
  | .object m => do
    checkKeys l m "font face" fontFaceKeys
    let name ← string l m "name"
    let bundled ← bool? l m "bundled"
    let path ← string? l m "path"
    let source ← fontSource l bundled path
    let attrs ← attributes l m
    return ⟨name, source, attrs⟩
  | v => reject l (.faceNotObject v.describe)

/-- Font faces, of which the first has the given index. -/
def fontFacesFrom (l : Location) (index : Nat) : List Json → Checked (List FontFace)
  | [] => .ok []
  | item :: rest => do
    let face ← fontFace (l.step (.item index)) item
    let faces ← fontFacesFrom l (index + 1) rest
    return face :: faces

def fontFaces (l : Location) (m : Members) : Checked (List FontFace) :=
  match m.find? "fonts" with
  | none => .ok []
  | some (.array items) => fontFacesFrom (l.step .fonts) 0 items
  | some v => reject l (.wrongType "fonts" "an array" v.describe)

/-- The name of an element, which is not empty. -/
def tagName (l : Location) (m : Members) : Checked String := do
  let name ← string l m "tag"
  if name.isEmpty then reject l .emptyTagName else return name

/-- The tag that an object stands for; `children` is the outcome of reading its children. -/
def tagOfObject (l : Location) (m : Members) (children : Checked (Option (List Tag))) :
    Checked Tag := do
  let kind ← classify l m
  checkKeys l m kind.name kind.keys
  match kind with
  | .container => return .container (← string l m "clgn_path")
  | .image =>
    let path ← string l m "image_path"
    let kind ← string? l m "kind"
    let attrs ← attributes l m
    let children ← children
    let vars ← definitions l m
    return .image path kind attrs vars children
  | .font =>
    let faces ← fontFaces l m
    let attrs ← attributes l m
    return .font faces attrs
  | .nestedSvg =>
    let path ← string l m "svg_path"
    let attrs ← attributes l m
    return .nestedSvg path attrs
  | .text =>
    let content ← string l m "text"
    let raw ← bool? l m "is_preescaped"
    return .text content (raw.getD false)
  | .generic =>
    let name ← tagName l m
    let attrs ← attributes l m
    let children ← children
    let vars ← definitions l m
    return .generic name attrs vars children

mutual

/-- The tags that a value stands for where children are expected. -/
def childrenOf (l : Location) : Json → Checked (List Tag)
  | .array items => childrenFrom l 0 items
  | .string s => .ok [.text s false]
  | .object m => do return [← tagOfObject l m (childrenIn l m)]
  | v => reject l (.notTag v.describe)

/-- The tags of the items of a list, of which the first has the given index. -/
def childrenFrom (l : Location) (index : Nat) : List Json → Checked (List Tag)
  | [] => .ok []
  | item :: rest => do
    let tags ← childrenOf (l.step (.item index)) item
    let others ← childrenFrom l (index + 1) rest
    return tags ++ others

/-- The tags under the key `children` of an object. -/
def childrenIn (l : Location) : List (String × Json) → Checked (Option (List Tag))
  | [] => .ok none
  | (key, v) :: rest =>
    if key = "children" then do return some (← childrenOf (l.step .children) v)
    else childrenIn l rest

end

/-- The tag that a value stands for. -/
def tagOf (l : Location) : Json → Checked Tag
  | .string s => .ok (.text s false)
  | .object m => tagOfObject l m (childrenIn l m)
  | v => reject l (.notTag v.describe)

/-- A whole manifest. One that is itself a tag becomes the only child of a bare root. -/
def ofJson : Json → Checked Root
  | .object m =>
    let l := Location.root
    if !(marks m).isEmpty then do
      let tag ← tagOf l (.object m)
      return ⟨[], [], some [tag]⟩
    else do
      checkKeys l m "root" rootKeys
      let attrs ← attributes l m
      let children ← childrenIn l m
      let vars ← definitions l m
      return ⟨attrs, vars, children⟩
  | v => reject .root (.rootNotObject v.describe)

end SvgSkeleton.Manifest
