/-!
The tree of a picture: elements, and pieces of text between them. The attributes of an element are
a list of names with values, in the order in which they are written; setting a name that is there
changes its value and leaves its place. A tree is written as XML in one line, with every attribute
in double quotes. Attribute values escape `&`, `<`, `>` and the double quote, text escapes the first
three of them.
-/

namespace SvgSkeleton

/-! ### The tree -/

/-- An attribute list; the operations keep its names distinct. -/
structure Attributes where
  toList : List (String × String)
  deriving DecidableEq, Repr

namespace Attributes

def empty : Attributes := ⟨[]⟩

/-- The entries with the name set to the value. -/
def setIn (name value : String) : List (String × String) → List (String × String)
  | [] => [(name, value)]
  | e :: r => if e.1 = name then (name, value) :: r else e :: setIn name value r

/-- Set an attribute: in its place if the name is there, else at the end. -/
def set (a : Attributes) (name value : String) : Attributes := ⟨setIn name value a.toList⟩

def get? (a : Attributes) (name : String) : Option String := a.toList.lookup name

def contains (a : Attributes) (name : String) : Bool := (a.get? name).isSome

/-- Put an attribute in front, unless the name is there. -/
def setDefaultFirst (a : Attributes) (name value : String) : Attributes :=
  if a.contains name then a else ⟨(name, value) :: a.toList⟩

/-- The names in order. -/
def names (a : Attributes) : List String := a.toList.map (·.1)

/-- Set each of the entries in turn. -/
def setAll (a : Attributes) (entries : List (String × String)) : Attributes :=
  entries.foldl (fun a e => a.set e.1 e.2) a

/-- The list of entries of which a repeated name keeps the first place and the last value. -/
def ofList (entries : List (String × String)) : Attributes := empty.setAll entries

end Attributes

/-- A node of the tree. Text is markup already if it is `raw`. An element that is not `paired` is
written as a single tag while it has no children. -/
inductive Node where
  | element (name : String) (attrs : Attributes) (children : List Node) (paired : Bool)
  | text (content : String) (raw : Bool)
  deriving Repr

/-- An element by itself. -/
structure Element where
  name : String
  attrs : Attributes
  children : List Node
  paired : Bool
  deriving Repr

namespace Element

def toNode (e : Element) : Node := .element e.name e.attrs e.children e.paired

/-- An element without children, written as a single tag. -/
def single (name : String) (attrs : Attributes) : Element := ⟨name, attrs, [], false⟩

/-- An element written with an opening and a closing tag. -/
def pair (name : String) (attrs : Attributes) (children : List Node) : Element :=
  ⟨name, attrs, children, true⟩

/-- An element with the children that its source lists; it is a single tag if there is no list. -/
def ofChildren (name : String) (attrs : Attributes) : Option (List Node) → Element
  | none => single name attrs
  | some children => pair name attrs children

end Element

end SvgSkeleton

namespace SvgSkeleton.Markup

/-! ### Writing the tree -/

/-- A character of a piece of text. -/
def escapeTextChar (c : Char) : List Char :=
  match c with
  | '&' => "&amp;".toList
  | '<' => "&lt;".toList
  | '>' => "&gt;".toList
  | c => [c]

/-- A character of an attribute value. -/
def escapeAttrChar (c : Char) : List Char :=
  match c with
  | '"' => "&quot;".toList
  | c => escapeTextChar c

def escapeText (s : String) : String := String.ofList (s.toList.flatMap escapeTextChar)

def escapeAttr (s : String) : String := String.ofList (s.toList.flatMap escapeAttrChar)

/-- The attributes, each after a blank. -/
def printAttrs (attrs : List (String × String)) : String :=
  attrs.foldl (fun out a => out ++ " " ++ a.1 ++ "=\"" ++ escapeAttr a.2 ++ "\"") ""

mutual

/-- A node as XML. -/
def print : Node → String
  | .text content raw => if raw then content else escapeText content
  | .element name attrs children paired =>
    let opening := "<" ++ name ++ printAttrs attrs.toList
    if children.isEmpty && !paired then opening ++ "/>"
    else opening ++ ">" ++ printAll children ++ "</" ++ name ++ ">"

/-- Nodes as XML, one after the other. -/
def printAll : List Node → String
  | [] => ""
  | node :: rest => print node ++ printAll rest

end

/-- The element as an XML document. -/
def printElement (e : Element) : String := print e.toNode

end SvgSkeleton.Markup
