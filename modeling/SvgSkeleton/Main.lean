import SvgSkeleton.CommandLine

/-!
The program. It copies the folders and files that a run may read into a tree, lets the library
generate the picture, and writes it, once, also where it is asked to watch the folder. The only
programs that it can call to compile templates are those of the shell in the library.
-/

namespace SvgSkeleton.Main

/-- The place that an absolute path without links denotes. -/
def placeOf (path : String) : Place :=
  (FileTree.split (Text.bytesOf path)).filter (!·.isEmpty)

/-- The tree with a folder at a place, unless it is there. -/
def withFolder (tree : FileTree) (place : Place) : FileTree :=
  if tree.isFolderAt place then tree else tree.put (.folder []) place

/-- Where a path leads, or nothing if it leads nowhere. -/
def realPath? (path : String) : IO (Option String) := do
  try
    let real ← IO.FS.realPath path
    return some real.toString
  catch _ => return none

/-- The tree with the file at a path, or with an empty folder. -/
def addEntry (tree : FileTree) (path : String) : IO FileTree := do
  let real ← IO.FS.realPath path
  match (← real.metadata).type with
  | .dir => return withFolder tree (placeOf path)
  | .file => return tree.put (.file (← IO.FS.readBinFile path)) (placeOf path)
  | _ => return tree

/-- The tree with all that is inside a folder. Where a link leads elsewhere, only the file or the
bare folder there is added. -/
partial def addFolder (tree : FileTree) (path : String) : IO FileTree := do
  let real ← IO.FS.realPath path
  let mut tree := withFolder tree (placeOf path)
  for entry in ← real.readDir do
    let here := path ++ "/" ++ entry.fileName
    match ← realPath? here with
    | none => pure ()
    | some target =>
      if target = here then
        let there ← IO.FS.realPath here
        if (← there.metadata).type == .dir then
          tree ← addFolder tree here
        else
          tree ← addEntry tree here
      else
        tree := tree.put (.link (Text.bytesOf target)) (placeOf here)
        unless (tree.at? (placeOf target)).isSome do
          tree ← addEntry tree target
  return tree

/-- The tree with the links on the way along a path from a folder, and the place where it leads. -/
partial def addRoute (tree : FileTree) (folder : String) : List String →
    IO (FileTree × Option String)
  | [] => return (tree, some folder)
  | name :: rest => do
    if name.isEmpty || name == "." then addRoute tree folder rest
    else if name == ".." then addRoute tree (Path.parent folder) rest
    else
      let here := folder ++ "/" ++ name
      match ← realPath? here with
      | none => return (tree, none)
      | some target =>
        if target = here then addRoute tree here rest
        else addRoute (tree.put (.link (Text.bytesOf target)) (placeOf here)) target rest

/-- The tree with what stands at a path; nothing is added for a path that leads nowhere. -/
def addPath (tree : FileTree) (cwd path : String) : IO FileTree := do
  let start := if Path.startsWithSlash path.toList then "" else cwd
  match ← addRoute tree start (path.splitOn "/") with
  | (tree, none) => return tree
  | (tree, some target) =>
    let tree ← addEntry tree target
    if tree.isFolderAt (placeOf target) then addFolder tree target else return tree

/-- The tree with what stands at a path, if there is one. -/
def addPath? (tree : FileTree) (cwd : String) : Option String → IO FileTree
  | none => return tree
  | some path => addPath tree cwd path

/-- Why a file is not written. -/
def osError : IO.Error → OsError
  | .noFileOrDirectory .. => .noEntry
  | .permissionDenied (some _) _ _ => .denied
  | .inappropriateType _ code _ | .resourceExhausted _ code _ =>
    (OsError.ofNumber? code.toNat).getD (.other (toString code))
  | e => .other (toString e)

/-- Write a report. -/
def tell (report : CommandLine.Report) : IO UInt32 := do
  IO.print report.output
  IO.eprint report.errors
  return report.status.toUInt32

/-- Tell about a failure. -/
def fail (e : Error) : IO UInt32 := tell ⟨1, "", CommandLine.failure e⟩

/-- Generate the picture that is asked for. -/
def generate (tree : FileTree) (cwd : Place) (request : CommandLine.Request) (options : Options) :
    IO UInt32 := do
  IO.print (CommandLine.heading request)
  (← IO.getStdout).flush
  let start ← IO.monoMsNow
  let failed (e : Error) : IO UInt32 := tell { CommandLine.failed request e with output := "" }
  match CommandLine.checkWatch tree cwd request with
  | .error e => fail e
  | .ok () =>
    match generateFrom tree cwd request.folder options with
    | .error e => failed e
    | .ok document =>
      try
        IO.FS.writeFile request.out document.svg
        tell ⟨0, CommandLine.success request document ((← IO.monoMsNow) - start), ""⟩
      catch e => failed (.io (osError e))

/-- Do what the arguments ask for. -/
def run (args : List String) : IO UInt32 := do
  match CommandLine.parse args with
  | .error stop => tell stop.report
  | .ok request =>
    let cwd := (← IO.FS.realPath ".").toString
    let place := placeOf cwd
    let tree := withFolder (Shell.BaseFiles.addTo (.folder [])) place
    let tree ← addPath? tree cwd request.given.config
    match CommandLine.settings tree place request.given with
    | .error e => fail e
    | .ok settings =>
      let tree ← addPath? tree cwd (CommandLine.fontsFolder settings request.given)
      let tree ← addPath tree cwd request.folder
      match CommandLine.options tree place settings request.given with
      | .error e => fail e
      | .ok options => generate tree place request options

end SvgSkeleton.Main

/-- Run the program. -/
def main (args : List String) : IO UInt32 := SvgSkeleton.Main.run args
