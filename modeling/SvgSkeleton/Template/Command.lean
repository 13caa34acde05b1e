import SvgSkeleton.Shell
import SvgSkeleton.Template
import SvgSkeleton.Text.Character

/-!
A compiler that is a program of its own. It gets the source on its input and, where the skeleton is
a folder on disk, runs in the folder of the manifest and is told to look for imports there. What it
writes is the JSON text, unless it fails; then what it writes to its error output is the message.
-/

namespace SvgSkeleton.Template

/-- A call of a program. Without a folder it runs where the command is given. -/
structure Call where
  program : String
  args : List String
  folder : Option String
  input : List UInt8
  deriving DecidableEq, Repr

/-- What a program leaves behind. -/
structure Reply where
  status : Nat
  output : List UInt8
  errors : List UInt8
  /-- How many bytes of its input it has not read. -/
  unread : Nat
  deriving DecidableEq, Repr

/-- What runs programs. The error says why a program cannot be run. -/
abbrev Host := Call → Except OsError Reply

/-- A program with its first arguments. -/
structure Command where
  program : String
  args : List String
  deriving DecidableEq, Repr

namespace Command

/-- All arguments of a call. -/
def callArgs (c : Command) (folder : Option String) : List String :=
  c.args ++ (match folder with
    | some folder => ["-J", folder]
    | none => []) ++ ["-"]

/-- The call that compiles a source. -/
def call (c : Command) (source : String) (folder : Option String) : Call :=
  ⟨c.program, c.callArgs folder, folder, Text.bytesOf source⟩

/-- Can the words of a call be handed to a program? No character in them may be NUL. -/
def isSendable (c : Call) : Bool :=
  !(c.program :: c.args).any fun word => word.toList.contains '\x00'

/-- How much of an input can be under way to a program that does not read it. -/
def pipeCapacity : Nat := 65536

/-- What a reply means. -/
def outcome (c : Command) (r : Reply) : Except Failure String :=
  if r.unread > pipeCapacity then .error (.cannotSend c.program .brokenPipe)
  else if r.status ≠ 0 then
    .error (.reported (String.ofList (Text.trim (Text.decodeLossy r.errors).toList)))
  else
    match Text.decode? ⟨r.output.toArray⟩ with
    | some text => .ok text
    | none => .error (.notText c.program)

/-- The command as a compiler. -/
def compiler (host : Host) (c : Command) : Compiler := fun source imports =>
  let call := c.call source imports.searchFolder
  if !isSendable call then .error (.cannotRun c.program .nulInData)
  else
    match host call with
    | .error reason => .error (.cannotRun c.program reason)
    | .ok reply => c.outcome reply

/-- The command that compiles templates if nothing else is said. -/
def default : Command := ⟨"jsonnet", []⟩

end Command

/-! ### Commands on a tree of files

The programs are those that stand in the tree, and they run in their folder.
-/

/-- The folder that a call runs in, if it is there. -/
def folderOf (tree : FileTree) (cwd : Place) (call : Call) : Except OsError Place :=
  match call.folder with
  | none => .ok cwd
  | some path => do
    let place ← tree.locate cwd (Text.bytesOf path)
    if tree.isFolderAt place then return place else .error .notFolder

/-- What runs the programs of a tree for commands that are given in the folder `cwd`. -/
def Host.ofTree (tree : FileTree) (cwd : Place) : Host := fun call => do
  let folder ← folderOf tree cwd call
  let left ← Shell.start tree folder call.program call.args call.input
  return ⟨left.status, left.output, left.errors, left.unread⟩

end SvgSkeleton.Template
