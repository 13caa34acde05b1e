import SvgSkeleton.Shell.Builtin.Basic
import SvgSkeleton.Shell.Builtin.Jobs
import SvgSkeleton.Shell.Builtin.Names
import SvgSkeleton.Shell.Builtin.Reading
import SvgSkeleton.Shell.Builtin.Settings
import SvgSkeleton.Shell.Lookup
import SvgSkeleton.Shell.Utility.Condition
import SvgSkeleton.Shell.Utility.Format

/-!
The commands that a shell carries out itself, by their names, and those of them that have to do with
the folder that it is in.
-/

namespace SvgSkeleton.Shell.Builtin

/-- The path with its dots resolved as text. -/
def resolved (folder path : Bytes) : Bytes :=
  let start := if path.head? = some '/' then [] else Bytes.splitAt '/' folder
  let names := (start ++ Bytes.splitAt '/' path).foldl (fun (names : List Bytes) name =>
    if name.isEmpty || name = ['.'] then names
    else if name = ['.', '.'] then names.tail
    else name :: names) []
  '/' :: Bytes.join ['/'] names.reverse

/-- The folder that the shell is in, by the path that led to it. -/
def shownFolder : Shell Bytes := do
  match ← valueOf? "PWD".toList with
  | some path => return path
  | none => workingFolder

/-- Does the path denote a folder? -/
def isFolderPath (path : Bytes) : Shell Bool := do
  match ← nodeAt? path with
  | .ok node => return node.isFolder
  | .error _ => return false

/-- Go to a folder. -/
def goTo (physical : Bool) (path : Bytes) : Shell Bool := do
  let m ← get
  let before ← shownFolder
  let goal := if physical then path else resolved before path
  match m.tree.locate m.cwd (Bytes.toList goal) with
  | .error _ => return false
  | .ok place =>
    if !m.tree.isFolderAt place then return false
    set { m with cwd := place }
    let shown ← if physical then workingFolder else pure goal
    setVariable "OLDPWD".toList ⟨some before, true, false⟩
    setVariable "PWD".toList ⟨some shown, true, false⟩
    return true

/-- Is the path looked up from the top or from the folder at hand, whatever the search path is? -/
def isFixed (path : Bytes) : Bool :=
  match path with
  | '/' :: _ | ['.'] | '.' :: '/' :: _ | ['.', '.'] | '.' :: '.' :: '/' :: _ => true
  | _ => false

/-- The first folder of the search path in which a path denotes a folder; the path itself where the
search path says so or has none. The flag says that the folder was looked for elsewhere. -/
def inSearchPath (path : Bytes) : List Bytes → Shell (Bytes × Bool)
  | [] => return (path, false)
  | folder :: rest => do
    let candidate := if folder.isEmpty then path else inFolder folder path
    if ← isFolderPath candidate then return (candidate, !folder.isEmpty)
    inSearchPath path rest

/-- Does the last of the letters ask for paths without links? -/
def isPhysical (letters : Bytes) : Bool := letters.getLast? == some 'P'

def cd : Builtin := fun args => do
  let (letters, args) ← options "LP" args
  let (path, shows) ← match args with
    | [] => do pure ((← valueOf? "HOME".toList).getD [], false)
    | ['-'] :: _ => do pure ((← valueOf? "OLDPWD".toList).getD [], true)
    | path :: _ => pure (path, false)
  let asked := path
  let path := if path.isEmpty then ['.'] else path
  let (path, found) ←
    if isFixed path then pure (path, false)
    else
      match ← valueOf? "CDPATH".toList with
      | some folders => inSearchPath path (Bytes.splitAt ':' folders)
      | none => pure (path, false)
  if ← goTo (isPhysical letters) path then
    if shows || found then write 1 ((← shownFolder) ++ ['\n'])
    return 0
  else failWith ("can't cd to ".toList ++ asked)

def pwd : Builtin := fun args => do
  let (letters, _) ← options "LP" args
  write 1 ((← if isPhysical letters then workingFolder else shownFolder) ++ ['\n'])
  return 0

end SvgSkeleton.Shell.Builtin

/-! ### All of them -/

namespace SvgSkeleton.Shell.Builtin

/-- A command that leaves a status and does nothing. -/
def constant (n : Nat) : Builtin := fun _ => return n

/-- The commands that run others. -/
def runningNames : List String := [".", "command", "eval", "exec", "kill", "type"]

def printf : Builtin := fun args => do
  let (_, args) ← options "" args
  printfBuiltin args

/-- The commands that run no others, all but `hash`, by their names. -/
def plainTable : List (String × Builtin) :=
  [(":", constant 0), ("true", constant 0), ("false", constant 1), ("echo", echoBuiltin),
   ("printf", printf), ("test", Condition.run "test".toList), ("[", Condition.run ['[']),
   ("exit", exit), ("return", leave), ("break", breakLoop), ("continue", nextRound),
   ("shift", shift), ("set", setArgs), ("unset", unset), ("export", exportAll),
   ("readonly", readOnly), ("local", makeLocal), ("read", read), ("getopts", getopts), ("cd", cd),
   ("chdir", cd), ("pwd", pwd), ("trap", trap), ("umask", umask), ("ulimit", ulimit),
   ("times", times), ("wait", waitFor), ("jobs", jobs), ("alias", abbreviate), ("unalias", unalias),
   ("bg", resume), ("fg", resume)]

/-- Is it the name of a command of the shell? -/
def isName (name : Bytes) : Bool :=
  let s := String.ofList name
  s == "hash" || (plainTable.lookup s).isSome || runningNames.contains s

/-- The commands that run no others, by their names. -/
def table : List (String × Builtin) := ("hash", hash isName) :: plainTable

/-- The commands whose arguments may be assignments. -/
def assignsArguments (name : Bytes) : Bool :=
  ["export", "readonly", "local"].contains (String.ofList name)

end SvgSkeleton.Shell.Builtin
