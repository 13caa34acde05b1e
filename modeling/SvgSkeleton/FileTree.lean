import SvgSkeleton.OsError
import SvgSkeleton.Text.Character

/-!
A finite tree of files, folders, symbolic links and special files. Names are any bytes. A place is
given by the names on the way to it from the top of the tree, and passes through folders only; a
path is walked from a place and follows the links that it meets, at most forty of them.
-/

namespace SvgSkeleton

abbrev FileName := List UInt8

/-- The names on the way from the top of a tree, outermost first. -/
abbrev Place := List FileName

/-- A file that the system answers for itself. -/
inductive SpecialFile where
  /-- Takes everything and holds nothing. -/
  | null
  /-- Takes everything and holds zeros without end. -/
  | zero
  /-- Holds zeros without end and never has room. -/
  | full
  /-- Takes everything and holds bytes without end of which nothing is to be expected. -/
  | random
  /-- The terminal, of which there is none. -/
  | terminal
  /-- Hands on what is written to it to whoever reads it. -/
  | pipe
  /-- One of the standard streams of whoever opens it. -/
  | stream (number : Nat)
  /-- A program, by the name that it goes by. -/
  | program (name : String)
  deriving DecidableEq, Repr

inductive FileTree where
  | file (content : ByteArray)
  | special (kind : SpecialFile)
  | link (target : List UInt8)
  | folder (entries : List (FileName × FileTree))

namespace FileTree

/-- What a folder holds under a name. -/
def child? (t : FileTree) (name : FileName) : Option FileTree :=
  match t with
  | .folder entries => entries.lookup name
  | _ => none

/-- What stands at a place. -/
def at? (t : FileTree) (place : Place) : Option FileTree :=
  place.foldlM (fun t name => t.child? name) t

/-- A step of a path: stay, go up, or go down to a name. -/
inductive Step where
  | stay
  | up
  | down (name : FileName)
  deriving DecidableEq, Repr

/-- The pieces of a path between slashes. -/
def split : List UInt8 → List FileName
  | [] => [[]]
  | b :: r =>
    if b = 0x2F then [] :: split r
    else
      match split r with
      | [] => [[b]]
      | n :: ns => (b :: n) :: ns

def Step.ofName (name : FileName) : Step :=
  if name = [] ∨ name = [0x2E] then .stay
  else if name = [0x2E, 0x2E] then .up
  else .down name

/-- The steps of a path. -/
def steps (path : List UInt8) : List Step := (split path).map Step.ofName

/-- Does the path begin at the top? -/
def isAbsolute (path : List UInt8) : Bool := path.head? == some 0x2F

/-- How many bytes a name may have. -/
def nameLimit : Nat := 255

/-- How many bytes a path must stay below. -/
def pathLimit : Nat := 4096

/-- How many links one walk may follow. -/
def linkLimit : Nat := 40

/-- Where a walk stops: at its end, at the first link on its way, or at an entry that fails. Places
are given innermost first. -/
inductive Stop where
  | arrived (place : List FileName)
  | atLink (place : List FileName) (target : List UInt8) (rest : List Step)
  | failed (reason : OsError)

/-- The length of the path of a place. -/
def pathLength : List FileName → Nat
  | [] => 0
  | name :: rest => 1 + name.length + pathLength rest

/-- The length of the path that names a step from a place: behind the path of the place stand a
slash and the name to go down to. -/
def Step.pathLength (place : List FileName) : Step → Nat
  | .down name => FileTree.pathLength place + 1 + name.length
  | _ => FileTree.pathLength place + 1

/-- Walk on to the end or to the next link. The path of every step must stay below the bound, if
there is one. -/
def descend (t : FileTree) (bound : Option Nat) (place : List FileName) : List Step → Stop
  | [] => .arrived place
  | s :: rest =>
    if bound.any (· ≤ s.pathLength place) then .failed .nameTooLong
    else
      match t.at? place.reverse with
      | some (.folder entries) =>
        match s with
        | .stay => descend t bound place rest
        | .up => descend t bound place.tail rest
        | .down name =>
          if name.length > nameLimit then .failed .nameTooLong
          else
            match entries.lookup name with
            | none => .failed .noEntry
            | some (.link target) => .atLink place target rest
            | some _ => descend t bound (name :: place) rest
      | _ => .failed .notFolder

/-- Walk to the end and follow links, as many as are allowed. The result is the place, innermost
name first, and the number of links still allowed. -/
def walk (t : FileTree) (bound : Option Nat) (links : Nat) (place : List FileName)
    (route : List Step) : Except OsError (List FileName × Nat) :=
  match t.descend bound place route with
  | .arrived place => .ok (place, links)
  | .failed reason => .error reason
  | .atLink place target rest =>
    match links with
    | 0 => .error .tooManyLinks
    | links + 1 =>
      walk t bound links (if isAbsolute target then [] else place) (steps target ++ rest)

/-- Is the path something that can be looked up? -/
def checkText (path : List UInt8) : Except OsError Unit :=
  if path.contains 0 then .error .nulInName
  else if path.isEmpty then .error .noEntry
  else .ok ()

/-- Is the path one that can be walked at once? -/
def checkPath (path : List UInt8) : Except OsError Unit := do
  checkText path
  if path.length ≥ pathLimit then .error .nameTooLong

/-- The place where a walk of a path from a folder begins, innermost name first. -/
def startOf (cwd : Place) (path : List UInt8) : List FileName :=
  if isAbsolute path then [] else cwd.reverse

/-- The place that a path denotes, all links followed; a path that is not absolute is walked from
the folder `cwd`. -/
def locate (t : FileTree) (cwd : Place) (path : List UInt8) : Except OsError Place := do
  checkPath path
  let (place, _) ← t.walk none linkLimit (startOf cwd path) (steps path)
  return place.reverse

/-- The place that a path denotes, found by looking up one name after the other. The path itself
may be of any length, but that of every place on the way is walked at once. -/
def resolve (t : FileTree) (cwd : Place) (path : List UInt8) : Except OsError Place := do
  checkText path
  let (place, _) ← t.walk (some pathLimit) linkLimit (startOf cwd path) (steps path)
  return place.reverse

/-- The content of the file at a place. -/
def contentAt (t : FileTree) (place : Place) : Except OsError ByteArray :=
  match t.at? place with
  | some (.file content) => .ok content
  | some (.special _) => .ok .empty
  | some (.folder _) => .error .isFolder
  | _ => .error .noEntry

/-- The content of the file that a path denotes. -/
def read (t : FileTree) (cwd : Place) (path : List UInt8) : Except OsError ByteArray := do
  t.contentAt (← t.locate cwd path)

def isFile : FileTree → Bool
  | .file _ => true
  | _ => false

def isFolder : FileTree → Bool
  | .folder _ => true
  | _ => false

def isFileAt (t : FileTree) (place : Place) : Bool := (t.at? place).any isFile

def isFolderAt (t : FileTree) (place : Place) : Bool := (t.at? place).any isFolder

/-- The entries of the folder that a path denotes. -/
def readFolder (t : FileTree) (cwd : Place) (path : List UInt8) :
    Except OsError (List (FileName × FileTree)) := do
  match t.at? (← t.locate cwd path) with
  | some (.folder entries) => return entries
  | _ => .error .notFolder

mutual

/-- The places of all files in a tree; links are not followed. -/
def files : FileTree → List Place
  | .file _ => [[]]
  | .special _ => []
  | .link _ => []
  | .folder entries => filesOf entries

/-- The places of all files in the entries of a folder. -/
def filesOf : List (FileName × FileTree) → List Place
  | [] => []
  | (name, t) :: rest => (files t).map (name :: ·) ++ filesOf rest

end

mutual

/-- The places of all folders in a tree, its top included; links are not followed. -/
def folders : FileTree → List Place
  | .file _ => []
  | .special _ => []
  | .link _ => []
  | .folder entries => [] :: foldersOf entries

/-- The places of all folders in the entries of a folder. -/
def foldersOf : List (FileName × FileTree) → List Place
  | [] => []
  | (name, t) :: rest => (folders t).map (name :: ·) ++ foldersOf rest

end

/-- The entries with one of them set. -/
def setEntry (name : FileName) (node : FileTree) :
    List (FileName × FileTree) → List (FileName × FileTree)
  | [] => [(name, node)]
  | e :: r => if e.1 = name then (name, node) :: r else e :: setEntry name node r

/-- The tree with a node put at a place; whatever is missing on the way becomes a folder. -/
def put (t : FileTree) (node : FileTree) : Place → FileTree
  | [] => node
  | name :: rest =>
    let entries := match t with
      | .folder entries => entries
      | _ => []
    let inner := (entries.lookup name).getD (.folder [])
    .folder (setEntry name (put inner node rest) entries)

/-- The tree without what stands at a place. -/
def erase (t : FileTree) : Place → FileTree
  | [] => t
  | name :: rest =>
    match t with
    | .folder entries =>
      match rest, entries.lookup name with
      | [], _ => .folder (entries.filter (·.1 ≠ name))
      | rest, some inner => .folder (setEntry name (erase inner rest) entries)
      | _, none => t
    | t => t

/-- Does the path end in a slash? -/
def endsInSlash (path : List UInt8) : Bool := path.getLast? == some 0x2F

/-- The path without the slashes at its end. -/
def trimSlashes (path : List UInt8) : List UInt8 :=
  (path.reverse.dropWhile (· == 0x2F)).reverse

/-- The place where a path's last step would put a file, which need not be there yet. A slash
behind the last name asks for a folder. -/
def targetOf (t : FileTree) (links : Nat) (start : List FileName) (path : List UInt8) :
    Except OsError Place :=
  let route := steps (trimSlashes path)
  match route.getLast? with
  | some (.down name) =>
    match t.walk none links start route.dropLast with
    | .error reason => .error reason
    | .ok (place, left) =>
      match t.at? place.reverse with
      | some (.folder entries) =>
        if endsInSlash path then .error .isFolder
        else if name.length > nameLimit then .error .nameTooLong
        else
          match entries.lookup name, links, left with
          | some (.link target), links + 1, _ + 1 =>
            targetOf t links (if isAbsolute target then [] else place) target
          | some (.link _), _, _ => .error .tooManyLinks
          | some (.folder _), _, _ => .error .isFolder
          | _, _, _ => .ok (name :: place).reverse
      | _ => .error .notFolder
  | _ =>
    match t.walk none links start route with
    | .error reason => .error reason
    | .ok _ => .error .isFolder

/-- The place of the file that a path denotes, which need not be there yet. -/
def locateTarget (t : FileTree) (cwd : Place) (path : List UInt8) : Except OsError Place := do
  checkPath path
  t.targetOf linkLimit (startOf cwd path) path

/-- The place of the entry that a path names. A link at its end is not followed, and the entry need
not be there yet. -/
def locateEntry (t : FileTree) (cwd : Place) (path : List UInt8) : Except OsError Place := do
  checkPath path
  let route := steps (trimSlashes path)
  match route.getLast? with
  | some (.down name) =>
    let (place, _) ← t.walk none linkLimit (startOf cwd path) route.dropLast
    if name.length > nameLimit then .error .nameTooLong
    else if t.isFolderAt place.reverse then return (name :: place).reverse
    else .error .notFolder
  | _ => t.locate cwd path

/-- The tree after content is given to the file at a place. -/
def writeAt (t : FileTree) (place : Place) (content : ByteArray) : Except OsError FileTree :=
  match t.at? place with
  | some (.special .full) => if content.isEmpty then .ok t else .error .noSpace
  | some (.special _) => .ok t
  | _ => .ok (t.put (.file content) place)

/-- The tree with the file that a path denotes written anew, or created in its folder. -/
def write (t : FileTree) (cwd : Place) (path : List UInt8) (content : ByteArray) :
    Except OsError FileTree := do
  t.writeAt (← t.locateTarget cwd path) content

/-- The tree with folders made along the names, below the place; links on the way are followed. -/
def makeFolders (t : FileTree) (place : List FileName) : List FileName →
    Except OsError (FileTree × List FileName)
  | [] => .ok (t, place)
  | name :: rest =>
    match t.walk none linkLimit place [.ofName name] with
    | .ok (next, _) => makeFolders t next rest
    | .error .noEntry =>
      makeFolders (t.put (.folder []) (name :: place).reverse) (name :: place) rest
    | .error reason => .error reason

/-- The tree with a node put at a path below a folder, and folders made on the way to it. -/
def install (t : FileTree) (base : Place) (path : List FileName) (node : FileTree) :
    Except OsError FileTree := do
  let names := path.filter (· ≠ [])
  let (t, parent) ← t.makeFolders base.reverse names.dropLast
  match names.getLast? with
  | none => return t
  | some name =>
    match node with
    | .folder _ => return (← t.makeFolders parent [name]).1
    | .file _ => return t.put node (← t.targetOf linkLimit parent name)
    | _ => return t.put node (name :: parent).reverse

/-- The absolute path of a place. -/
def absolutePath (place : Place) : List UInt8 :=
  if place.isEmpty then [0x2F] else place.flatMap (0x2F :: ·)

end FileTree
end SvgSkeleton
