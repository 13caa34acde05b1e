import SvgSkeleton.Shell.Machine

/-!
How a program is found: by its path, or by its name in one of the folders for programs. A path that
a name has led to is remembered.
-/

namespace SvgSkeleton.Shell

/-- The path of an entry of a folder. -/
def inFolder (folder name : Bytes) : Bytes :=
  if folder.getLast? = some '/' then folder ++ name else folder ++ '/' :: name

namespace Program

/-- What a call of a program comes to. -/
inductive Found where
  | program (name : String)
  /-- A file that has been made a program. -/
  | script (place : Place)
  | missing
  | refused (reason : OsError)

/-- What stands at a path, as a program. -/
def atPath (path : Bytes) : Shell Found := do
  match ← locate path with
  | .ok place =>
    let m ← get
    match m.tree.at? place with
    | some (.special (.program name)) => return .program name
    | some (.file _) =>
      return if modeAt m place &&& 0o111 != 0 then .script place else .refused .denied
    | _ => return .refused .denied
  | .error .noEntry | .error .notFolder | .error .nameTooLong | .error .tooManyLinks =>
    return .missing
  | .error e => return .refused e

/-- The folders in which programs are looked for. -/
def folders : Shell (List Bytes) := do
  return Bytes.splitAt ':' ((← valueOf? "PATH".toList).getD [])

/-- The path of a program in the first folder that has it, and else of one that may not be run. -/
def pathIn? (name : Bytes) (refused : Option Bytes) : List Bytes → Shell (Option Bytes)
  | [] => return refused
  | folder :: rest => do
    let path := if folder.isEmpty then name else inFolder folder name
    match ← atPath path with
    | .program _ | .script _ => return some path
    | .refused _ => pathIn? name (some (refused.getD path)) rest
    | .missing => pathIn? name refused rest

/-- The path of a program that is called by a name without a slash. -/
def path? (name : Bytes) : Shell (Option Bytes) := do
  if name.isEmpty then return none
  match (← get).hashed.lookup name with
  | some path => return some path
  | none => pathIn? name none (← folders)

/-- Remember where the program of a name is. -/
def remember (name path : Bytes) : Shell Unit := modify fun m =>
  if (m.hashed.lookup name).isSome then m else { m with hashed := m.hashed ++ [(name, path)] }

/-- The program that is called by a name or by a path. -/
def find (name : Bytes) : Shell Found := do
  if name.contains '/' then atPath name
  else
    match ← path? name with
    | some path =>
      let found ← atPath path
      match found with
      | .program _ | .script _ => remember name path
      | _ => pure ()
      return found
    | none => return .missing

end Program
end SvgSkeleton.Shell
