import SvgSkeleton.Json.Value
import SvgSkeleton.Text.Character

/-!
Variables in scope. A scope is a stack of frames, innermost first; a name means what its last
definition in the innermost frame that defines it says.
-/

namespace SvgSkeleton

/-- The value of an attribute or a variable. -/
inductive Scalar where
  | text (value : String)
  | number (value : Json.Number)
  deriving DecidableEq, Repr

/-- The value as it is written into attributes and text. -/
def Scalar.render : Scalar → String
  | .text value => value
  | .number value => value.text

/-- Names with values, in the order of a manifest. -/
abbrev Bindings := List (String × Scalar)

/-- The last value of a name. -/
def Bindings.last? (b : Bindings) (name : String) : Option Scalar := b.reverse.lookup name

/-- Frames of variables, innermost first. -/
abbrev Scope := List Bindings

namespace Scope

/-- The value of a name, from the innermost frame that defines it. -/
def find? : Scope → String → Option Scalar
  | [], _ => none
  | frame :: outer, name =>
    match frame.last? name with
    | some value => some value
    | none => find? outer name

end Scope

/-! ### Placeholders

A name between braces stands for the value of a variable. Braces around anything else are
text, and the value that is put in is not searched again.

The text is read in one pass. Behind an opening brace the scan holds back what may still become a
placeholder, and lets it go as text as soon as it cannot.
-/

/-- A character to copy, or a placeholder to fill. -/
inductive Piece where
  | copy (c : Char)
  | hole (name : String)
  deriving DecidableEq, Repr

namespace Piece

/-- The pieces read, latest first, and the characters behind an opening brace that may still
become a placeholder, latest first. -/
structure Scan where
  read : List Piece
  held : Option (List Char)

/-- The pieces read, after letting go what is held back. -/
def Scan.release (s : Scan) : List Piece :=
  match s.held with
  | none => s.read
  | some name => name.map copy ++ copy '{' :: s.read

/-- May the character come next in a name, of which `name` has been read? -/
def continues (name : List Char) (c : Char) : Bool :=
  if name.isEmpty then Text.isNameStart c else Text.isNameChar c

def Scan.step (s : Scan) (c : Char) : Scan :=
  match s.held with
  | none => if c = '{' then ⟨s.read, some []⟩ else ⟨copy c :: s.read, none⟩
  | some name =>
    if continues name c then ⟨s.read, some (c :: name)⟩
    else if c = '}' && !name.isEmpty then ⟨hole (String.ofList name.reverse) :: s.read, none⟩
    else if c = '{' then ⟨s.release, some []⟩
    else ⟨copy c :: s.release, none⟩

/-- The pieces of a text. -/
def ofText (s : List Char) : List Piece :=
  (s.foldl Scan.step ⟨[], none⟩).release.reverse

end Piece

namespace Scope

/-- The text so far and the number of placeholders filled, after one more piece. The error is the
name of a variable that is not defined. -/
def fill (scope : Scope) (done : String × Nat) : Piece → Except String (String × Nat)
  | .copy c => .ok (done.1.push c, done.2)
  | .hole name =>
    match scope.find? name with
    | none => .error name
    | some value => .ok (done.1 ++ value.render, done.2 + 1)

/-- The text with every placeholder filled, and their number, or the first undefined name. -/
def interpolate (scope : Scope) (text : String) : Except String (String × Nat) :=
  (Piece.ofText text.toList).foldlM (fill scope) ("", 0)

end Scope

end SvgSkeleton
