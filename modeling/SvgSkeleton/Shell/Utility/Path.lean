import SvgSkeleton.Shell.Lookup
import SvgSkeleton.Shell.Utility.Options

/-!
Paths as texts and as what they lead to: `basename`, `dirname`, `readlink` and `realpath`.
-/

namespace SvgSkeleton.Shell

/-! ### Names -/

/-- The path without the slashes at its end; of a path of slashes one is left. -/
def trimmedPath (path : Bytes) : Bytes :=
  let body := (path.reverse.dropWhile (· == '/')).reverse
  if body.isEmpty then path.take 1 else body

/-- The last name of a path. -/
def lastName (path : Bytes) : Bytes :=
  match trimmedPath path with
  | ['/'] => ['/']
  | body => (body.reverse.takeWhile (· != '/')).reverse

/-- The path in front of the last name. -/
def folderOf (path : Bytes) : Bytes :=
  let before := ((trimmedPath path).reverse.dropWhile (· != '/')).reverse
  if path.all (· == '/') && !path.isEmpty then ['/']
  else if before.isEmpty then ['.'] else trimmedPath before

/-- The name without an ending, unless the ending is all of it. -/
def withoutEnding (ending name : Bytes) : Bytes :=
  if ending.isSuffixOf name && ending.length < name.length then
    name.take (name.length - ending.length)
  else name

def basename : Utility := fun name args =>
  match readArguments [flag 'a' ["multiple"], setting 's' ["suffix"], flag 'z' ["zero"]] false
      (args.length + 1) args with
  | .error fault => misused name fault.message 1
  | .ok a => do
    let ending := if a.has 'z' then '\x00' else '\n'
    let several := a.has 'a' || a.has 's'
    match several, a.operands with
    | _, [] => misused name "missing operand".toList 1
    | false, [path] =>
      write 1 (lastName path ++ [ending])
      return 0
    | false, [path, suffix] =>
      write 1 (withoutEnding suffix (lastName path) ++ [ending])
      return 0
    | false, _ :: _ :: extra :: _ =>
      misused name ("extra operand ".toList ++ Quoting.plain extra) 1
    | true, paths =>
      paths.forM fun path =>
        write 1 (withoutEnding ((a.value? 's').getD []) (lastName path) ++ [ending])
      return 0

def dirname : Utility := withOptions [flag 'z' ["zero"]] fun name a => do
  if a.operands.isEmpty then misused name "missing operand".toList 1
  else
    let ending := if a.has 'z' then '\x00' else '\n'
    a.operands.forM fun path => write 1 (folderOf path ++ [ending])
    return 0

/-! ### Entries -/

/-- The place of the entry that a path names, if it is there. A slash at its end asks for a
folder. -/
def entry? (path : Bytes) : Shell (Except OsError (Place × FileTree)) := do
  let m ← get
  match m.tree.locateEntry m.cwd (Bytes.toList path) with
  | .error e => return .error e
  | .ok place =>
    match m.tree.at? place with
    | some node =>
      if path.getLast? = some '/' && !node.isFolder then
        match ← nodeAt? path with
        | .ok _ => return .ok (place, node)
        | .error e => return .error e
      else return .ok (place, node)
    | none => return .error .noEntry

/-- The place that a path leads to, and what stands there. -/
def target? (path : Bytes) : Shell (Except OsError (Place × FileTree)) := do
  match ← locate path with
  | .error e => return .error e
  | .ok place =>
    match (← get).tree.at? place with
    | some node => return .ok (place, node)
    | none => return .error .noEntry

/-- Do something with each operand; the status is 1 if one of them fails. -/
def forEach (operands : List Bytes) (act : Bytes → Shell Bool) : Shell Nat := do
  let outcomes ← operands.mapM act
  return if outcomes.all id then 0 else 1

/-- Complain about a path, behind words that say what cannot be done. -/
def cannot (name : Bytes) (what : String) (path : Bytes) (e : OsError) : Shell Bool := do
  utilityError name (what.toList ++ ' ' :: Quoting.always path ++ ": ".toList ++ reasonText e)
  return false

/-- Does a path lead to a folder? -/
def leadsToFolder (path : Bytes) : Shell Bool := do
  match ← nodeAt? path with
  | .ok node => return node.isFolder
  | .error _ => return false

mutual

/-- What is at a path and below, each with its path; a folder comes before what is in it, and the
latest entry first. -/
def pathsFrom (path : Bytes) : FileTree → List (Bytes × FileTree)
  | .folder entries => (path, .folder entries) :: pathsIn path entries
  | node => [(path, node)]

/-- What is at the entries of a folder and below. -/
def pathsIn (path : Bytes) : List (FileName × FileTree) → List (Bytes × FileTree)
  | [] => []
  | (name, node) :: rest => pathsIn path rest ++ pathsFrom (inFolder path (Bytes.ofList name)) node

end

mutual

/-- What is at a path and below; a folder comes behind what is in it. -/
def pathsUpTo (path : Bytes) : FileTree → List (Bytes × FileTree)
  | .folder entries => pathsUpToIn path entries ++ [(path, .folder entries)]
  | node => [(path, node)]

/-- What is at the entries of a folder and below; each folder comes behind what is in it. -/
def pathsUpToIn (path : Bytes) : List (FileName × FileTree) → List (Bytes × FileTree)
  | [] => []
  | (name, node) :: rest =>
    pathsUpToIn path rest ++ pathsUpTo (inFolder path (Bytes.ofList name)) node

end

/-! ### Links -/

/-- What must be there of a path. -/
inductive Presence where
  | all
  | folders
  | nothing
  deriving DecidableEq

/-- The place that steps lead to from a place, of which no more must be there than is asked for. The
fuel bounds the number of links. -/
def resolveSteps (tree : FileTree) (presence : Presence) :
    Nat → Nat → List FileName → List FileTree.Step → Except OsError (List FileName)
  | 0, _, _, _ => .error .tooManyLinks
  | _ + 1, _, place, [] => .ok place
  | fuel + 1, links, place, step :: rest =>
    match step with
    | .stay => resolveSteps tree presence fuel links place rest
    | .up => resolveSteps tree presence fuel links place.tail rest
    | .down name =>
      let goal := name :: place
      match tree.at? goal.reverse with
      | some (.link target) =>
        match links with
        | 0 => if presence = .nothing then resolveSteps tree presence fuel 0 goal rest
          else .error .tooManyLinks
        | links + 1 =>
          let start := if FileTree.isAbsolute target then [] else place
          resolveSteps tree presence fuel links start (FileTree.steps target ++ rest)
      | some (.folder _) => resolveSteps tree presence fuel links goal rest
      | some _ =>
        if rest.isEmpty || presence = .nothing then resolveSteps tree presence fuel links goal rest
        else .error .notFolder
      | none =>
        match presence, rest.all (· == .stay) with
        | .nothing, _ | .folders, true => resolveSteps tree presence fuel links goal rest
        | _, _ => .error .noEntry

/-- The absolute place that a path denotes. -/
def canonicalPlace (presence : Presence) (path : Bytes) : Shell (Except OsError Place) := do
  let m ← get
  let bytes := Bytes.toList path
  if path.isEmpty then return .error .noEntry
  return (resolveSteps m.tree presence 100000 FileTree.linkLimit (FileTree.startOf m.cwd bytes)
    (FileTree.steps bytes)).map List.reverse

def pathOf (place : Place) : Bytes := Bytes.ofList (FileTree.absolutePath place)

/-- What the letters of options ask to be there. -/
def presenceOf (a : Arguments) (usual : Presence) : Presence :=
  match a.last? "efm" with
  | some 'e' => .all
  | some 'f' => .folders
  | some 'm' => .nothing
  | _ => usual

def readlink : Utility :=
  withOptions [flag 'f' ["canonicalize"], flag 'e' ["canonicalize-existing"],
    flag 'm' ["canonicalize-missing"], flag 'n' ["no-newline"], flag 'q' ["quiet"],
    flag 's' ["silent"], flag 'v' ["verbose"], flag 'z' ["zero"]] fun name a => do
      if a.operands.isEmpty then misused name "missing operand".toList 1
      else
        let several := 1 < a.operands.length
        if several && a.has 'n' then
          utilityError name "ignoring --no-newline with multiple arguments".toList
        let ending : Bytes := if a.has 'n' && !several then [] else
          [if a.has 'z' then '\x00' else '\n']
        let refuse (path : Bytes) (e : OsError) : Shell Bool := do
          if a.last? "qsv" = some 'v' then fileError name path e
          return false
        forEach a.operands fun path => do
          if (a.last? "efm").isSome then
            match ← canonicalPlace (presenceOf a .folders) path with
            | .ok place =>
              write 1 (pathOf place ++ ending)
              return true
            | .error e => refuse path e
          else
            match ← entry? path with
            | .ok (_, .link target) =>
              write 1 (Bytes.ofList target ++ ending)
              return true
            | .ok _ => refuse path (.other "Invalid argument")
            | .error e => refuse path e

/-- The path that leads from a place to another one. -/
def relativePath (base place : Place) : Bytes :=
  let shared := ((base.zip place).takeWhile fun p => p.1 == p.2).length
  let ups := List.replicate (base.length - shared) ['.', '.']
  let names := ups ++ (place.drop shared).map Bytes.ofList
  if names.isEmpty then ['.'] else Bytes.join ['/'] names

def relativeLetter : Char := Char.ofNat 256
def baseLetter : Char := Char.ofNat 257

/-- The place that a path writes, no links followed. -/
def writtenPlace (path : Bytes) : Shell Place := do
  let m ← get
  let bytes := Bytes.toList path
  return ((FileTree.steps bytes).foldl (fun place step =>
    match step with
    | .stay => place
    | .up => place.tail
    | .down name => name :: place) (FileTree.startOf m.cwd bytes)).reverse

def realpath : Utility :=
  withOptions [flag 'e' ["canonicalize-existing"], flag 'm' ["canonicalize-missing"],
    flag 'L' ["logical"], flag 'P' ["physical"], flag 'q' ["quiet"],
    flag 's' ["strip", "no-symlinks"], flag 'z' ["zero"], setting relativeLetter ["relative-to"],
    setting baseLetter ["relative-base"]] fun name a => do
      if a.operands.isEmpty then misused name "missing operand".toList 1
      else
        let presence := presenceOf a .folders
        let place (path : Bytes) : Shell (Except OsError Place) := do
          if a.has 's' then
            match ← canonicalPlace presence path with
            | .ok _ => return .ok (← writtenPlace path)
            | .error e => return .error e
          else canonicalPlace presence path
        let known (letter : Char) : Shell (Except (Bytes × OsError) (Option Place)) := do
          match a.value? letter with
          | none => return .ok none
          | some path =>
            match ← place path with
            | .ok p => return .ok (some p)
            | .error e => return .error (path, e)
        match ← known relativeLetter, ← known baseLetter with
        | .error (path, e), _ | _, .error (path, e) =>
          fileError name path e
          return 1
        | .ok target, .ok base =>
          forEach a.operands fun path => do
            match ← place path with
            | .ok found =>
              let inside := base.all (·.isPrefixOf found) && (base.isNone || target.isNone
                || base.all fun b => target.all (b.isPrefixOf ·))
              let shown := match target.or base, inside with
                | some base, true => relativePath base found
                | _, _ => pathOf found
              write 1 (shown ++ [if a.has 'z' then '\x00' else '\n'])
              return true
            | .error e =>
              unless a.has 'q' do fileError name path e
              return false

end SvgSkeleton.Shell
