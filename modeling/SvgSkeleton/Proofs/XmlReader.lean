import Mathlib.Tactic.Lemma
import SvgSkeleton.Markup.Element

/-!
A plain reader of XML: start tags, end tags and single tags, attributes in double quotes, and text,
with references to four characters. It goes through the text once, changes no blanks, and stops at
what it does not know. Text between two tags becomes one node.
-/

namespace SvgSkeleton.Xml

/-- The characters with references, by the names of those. -/
def entities : List (String × Char) := [("amp", '&'), ("lt", '<'), ("gt", '>'), ("quot", '"')]

/-- The characters that part the names in a tag. -/
def blanks : List Char := [' ', '\t', '\n', '\r']

/-- Does the character neither end a name nor mean something in a tag? -/
def isPlain (c : Char) : Bool := !(blanks ++ ['<', '>', '/', '=', '&', '"', '\'']).contains c

/-! ### Characters with references among them -/

/-- The characters read, latest first, and the name of a reference that has begun, also latest
first. -/
structure Chars where
  text : List Char
  reference : Option (List Char)

namespace Chars

def empty : Chars := ⟨[], none⟩

def step (s : Chars) (c : Char) : Option Chars :=
  match s.reference with
  | none => if c = '&' then some ⟨s.text, some []⟩ else some ⟨c :: s.text, none⟩
  | some name =>
    if c = ';' then
      (entities.lookup (String.ofList name.reverse)).map fun d => ⟨d :: s.text, none⟩
    else some ⟨s.text, some (c :: name)⟩

/-- The text, if no reference is left open. -/
def text? (s : Chars) : Option String :=
  match s.reference with
  | none => some (String.ofList s.text.reverse)
  | some _ => none

end Chars

/-! ### Tags and what is between them -/

/-- A start tag, with the attributes read so far, latest first. -/
structure StartTag where
  name : String
  attrs : List (String × String)

def StartTag.attributes (t : StartTag) : Attributes := ⟨t.attrs.reverse⟩

/-- An element whose content is being read, with the nodes before it, latest first. -/
structure Opened where
  tag : StartTag
  before : List Node

/-- Where the reader stands. -/
inductive Mode where
  /-- Between tags. -/
  | content (chars : Chars)
  /-- Behind the `<` of a tag. -/
  | tag
  | startName (name : List Char)
  /-- Behind a blank in a start tag. -/
  | gap (tag : StartTag)
  | attrName (tag : StartTag) (name : List Char)
  /-- Behind the `=` of an attribute. -/
  | equals (tag : StartTag) (name : String)
  | value (tag : StartTag) (name : String) (chars : Chars)
  /-- Behind an attribute. -/
  | complete (tag : StartTag)
  /-- Behind the `/` of a single tag. -/
  | slash (tag : StartTag)
  | endName (name : List Char)

/-- The elements around the place, innermost first, and the nodes before it in the innermost,
latest first. -/
structure Reader where
  around : List Opened
  nodes : List Node
  mode : Mode

namespace Reader

/-- The nodes with the text that stands behind them, if there is any. -/
def flush (text : String) (nodes : List Node) : List Node :=
  if text = "" then nodes else .text text false :: nodes

/-- Go on in a start tag whose name or last attribute is read. -/
def stepInTag (r : Reader) (tag : StartTag) (c : Char) : Option Reader :=
  if c = '>' then some ⟨⟨tag, r.nodes⟩ :: r.around, [], .content .empty⟩
  else if c = '/' then some { r with mode := .slash tag }
  else if blanks.contains c then some { r with mode := .gap tag }
  else none

/-- Close the innermost element, whose name must be this one. -/
def close (r : Reader) (name : String) : Option Reader :=
  match r.around with
  | [] => none
  | inner :: around =>
    if inner.tag.name = name then
      let node := .element name inner.tag.attributes r.nodes.reverse true
      some ⟨around, node :: inner.before, .content .empty⟩
    else none

/-- Read one more character. -/
def step (r : Reader) (c : Char) : Option Reader :=
  match r.mode with
  | .content chars =>
    if c = '<' then
      chars.text?.map fun text => { r with nodes := flush text r.nodes, mode := .tag }
    else (chars.step c).map fun chars => { r with mode := .content chars }
  | .tag =>
    if c = '/' then some { r with mode := .endName [] }
    else if isPlain c then some { r with mode := .startName [c] }
    else none
  | .startName name =>
    if isPlain c then some { r with mode := .startName (c :: name) }
    else r.stepInTag ⟨String.ofList name.reverse, []⟩ c
  | .gap tag =>
    if isPlain c then some { r with mode := .attrName tag [c] } else r.stepInTag tag c
  | .attrName tag name =>
    if isPlain c then some { r with mode := .attrName tag (c :: name) }
    else if c = '=' then some { r with mode := .equals tag (String.ofList name.reverse) }
    else none
  | .equals tag name => if c = '"' then some { r with mode := .value tag name .empty } else none
  | .value tag name chars =>
    if c = '"' then
      chars.text?.map fun value =>
        { r with mode := .complete { tag with attrs := (name, value) :: tag.attrs } }
    else (chars.step c).map fun chars => { r with mode := .value tag name chars }
  | .complete tag => r.stepInTag tag c
  | .slash tag =>
    if c = '>' then
      let node := .element tag.name tag.attributes [] false
      some ⟨r.around, node :: r.nodes, .content .empty⟩
    else none
  | .endName name =>
    if isPlain c then some { r with mode := .endName (c :: name) }
    else if c = '>' then r.close (String.ofList name.reverse)
    else none

def run (r : Reader) (w : List Char) : Option Reader := w.foldlM step r

def start : Reader := ⟨[], [], .content .empty⟩

/-- The only element read, at the end of a document. -/
def element? (r : Reader) : Option Element :=
  match r with
  | ⟨[], [.element name attrs children paired], .content ⟨[], none⟩⟩ =>
    some ⟨name, attrs, children, paired⟩
  | _ => none

@[simp] lemma run_nil (r : Reader) : r.run [] = some r := rfl

lemma run_cons (r : Reader) (c : Char) (w : List Char) :
    r.run (c :: w) = (r.step c).bind (·.run w) := rfl

lemma run_cons_of_step {r s : Reader} {c : Char} (h : r.step c = some s) (w : List Char) :
    r.run (c :: w) = s.run w := by
  rw [run_cons, h]
  rfl

end Reader

/-- The element that a text is, read as a document. -/
def read (s : String) : Option Element := (Reader.start.run s.toList).bind Reader.element?

end SvgSkeleton.Xml
