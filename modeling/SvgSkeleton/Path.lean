/-!
Paths inside a skeleton: names separated by `/`, counted from the skeleton's root, whose own path
is empty. `normalize` walks a path from the root and never steps above it; `join` walks on from a
folder.
-/

namespace SvgSkeleton.Path

/-- Why a path is refused. -/
inductive Fault where
  | absolute
  | backslash
  | aboveRoot
  | outsideRoot
  | notText
  | noName
  deriving DecidableEq, Repr

def Fault.message : Fault → String
  | .absolute => "absolute paths are not allowed"
  | .backslash => "paths must use '/' as separator"
  | .aboveRoot => "path escapes the skeleton root"
  | .outsideRoot => "resolves outside the skeleton root"
  | .notText => "path is not valid UTF-8"
  | .noName => "a file needs a name"

/-- A refused path, as it was given. -/
structure Refusal where
  path : String
  fault : Fault
  deriving DecidableEq, Repr

/-- What stands between the slashes of a path. -/
abbrev Segment := List Char

/-- The segments of a path, also the empty ones. -/
def segments : List Char → List Segment
  | [] => [[]]
  | c :: r =>
    if c = '/' then [] :: segments r
    else
      match segments r with
      | [] => [[c]]
      | s :: ss => (c :: s) :: ss

/-- Segments with slashes between them. -/
def ofSegments : List Segment → List Char
  | [] => []
  | [s] => s
  | s :: ss => s ++ '/' :: ofSegments ss

/-- Does the path begin with an ASCII letter and a colon? -/
def hasDrive : List Char → Bool
  | c :: ':' :: _ => c.isAlpha
  | _ => false

/-- Does the path begin with a slash? -/
def startsWithSlash : List Char → Bool
  | '/' :: _ => true
  | _ => false

/-- A segment that stays where it is. -/
def staysHere (s : Segment) : Bool := s == [] || s == ['.']

/-- The segment that goes up one folder. -/
def goesUp (s : Segment) : Bool := s == ['.', '.']

/-- Walk on along segments; the place is given by its names, innermost first. -/
def walk (place : List Segment) : List Segment → Option (List Segment)
  | [] => some place
  | s :: r =>
    if staysHere s then walk place r
    else if goesUp s then
      match place with
      | [] => none
      | _ :: above => walk above r
    else walk (s :: place) r

/-- The names on the way from the root to what a path denotes. -/
def resolve (path : List Char) : Except Fault (List Segment) :=
  if startsWithSlash path then .error .absolute
  else if path.contains '\\' then .error .backslash
  else if hasDrive path then .error .absolute
  else
    match walk [] (segments path) with
    | none => .error .aboveRoot
    | some place => .ok place.reverse

/-- The shortest path to the same place, without `.`, `..` and empty segments. -/
def normalize (path : String) : Except Refusal String :=
  match resolve path.toList with
  | .error fault => .error ⟨path, fault⟩
  | .ok names => .ok (String.ofList (ofSegments names))

/-- The normal form of `relative`, taken from the folder `base`. A refusal names `relative`. -/
def join (base relative : String) : Except Refusal String :=
  if startsWithSlash relative.toList || hasDrive relative.toList then
    .error ⟨relative, .absolute⟩
  else if base.isEmpty then normalize relative
  else
    match normalize (base ++ "/" ++ relative) with
    | .error refusal => .error ⟨relative, refusal.fault⟩
    | .ok path => .ok path

/-- The part of a text before the last occurrence of a character, and the part after it. -/
def cutLast (sep : Char) (s : List Char) : Option (List Char × List Char) :=
  match s.reverse.dropWhile (· != sep) with
  | [] => none
  | _ :: before => some (before.reverse, (s.reverse.takeWhile (· != sep)).reverse)

/-- The folder of a path: all before the last slash. -/
def parent (path : String) : String :=
  match cutLast '/' path.toList with
  | none => ""
  | some (folder, _) => String.ofList folder

/-- The last segment of a path. -/
def fileName (path : List Char) : List Char :=
  match cutLast '/' path with
  | none => path
  | some (_, name) => name

/-- The extension of a path in lower case: what follows the last dot of its last segment, unless
the dot is its first or last character. -/
def extension (path : String) : Option String :=
  match cutLast '.' (fileName path.toList) with
  | none => none
  | some (stem, ext) =>
    if stem.isEmpty || ext.isEmpty then none else some (String.ofList ext).toLower

end SvgSkeleton.Path
