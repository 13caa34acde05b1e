import SvgSkeleton.Shell.Program
import SvgSkeleton.Shell.Run

/-!
Programs on a tree of files. `start` finds a program and runs it on an input; what it leaves is its
status, what it has written to its two outputs, and how much of the input it has left unread.
-/

namespace SvgSkeleton.Shell

/-- What a program leaves behind. -/
structure Outcome where
  status : Nat
  output : List UInt8
  errors : List UInt8
  /-- How many bytes of the input have not been read. -/
  unread : Nat
  deriving DecidableEq, Repr

/-- The longest name of a program. -/
def programNameLimit : Nat := FileTree.nameLimit

/-- The number of the process that starts a program. -/
def firstProcess : Nat := 4710

/-- The state before a program runs, in a folder, on an input. -/
def Machine.start (tree : FileTree) (cwd : Place) (input : List UInt8) : Machine where
  tree := tree
  cwd := cwd
  streams := #[.source (Bytes.ofList input), .sink [], .sink []]
  channels := [(0, 0), (1, 1), (2, 2)]
  definitions := BaseFiles.environment.map (fun (name, value) => (name, ⟨some value, true, false⟩))
    ++ [("PWD".toList, ⟨some (Bytes.ofList (FileTree.absolutePath cwd)), true, false⟩)]
  functions := []
  texts := []
  name := []
  args := []
  status := 0
  substituted := none
  line := 0
  command := none
  optionIndex := 1
  optionOffset := none
  switches := []
  tested := false
  hidden := []
  traps := []
  loops := 0
  process := firstProcess
  processes := firstProcess
  own := firstProcess
  host := firstProcess
  pending := []
  jobs := []
  background := none
  aliases := []
  hashed := []
  modes := []
  changes := []
  mask := 0o022
  time := 0
  deadline := none
  niceness := 0
  limits := []
  givenLast := []
  unwritten := none
  unread := false

/-- What has been written to a stream of a machine. -/
def Machine.writtenTo (m : Machine) (i : Nat) : List UInt8 :=
  match m.streams[i]? with
  | some (.sink pieces) => Bytes.toList (collected pieces)
  | _ => []

/-- How much is left in a stream of a machine. -/
def Machine.leftIn (m : Machine) (i : Nat) : Nat :=
  match m.streams[i]? with
  | some (.source left) => left.length
  | _ => 0

/-- The status of a program that has come to its end, or has been stopped. -/
def statusOf (result : Except Stop Nat) (m : Machine) : Nat :=
  match result with
  | .ok n | .error (.exit n) | .error (.leaveFunction n) => n % 256
  | .error .failed => 2
  | .error (.killed n) => 128 + n
  | .error _ => m.status % 256

/-- The kind of the program that a command means, seen from a folder. -/
def resolve (program : String) : Shell (Except OsError String) := do
  let name := Bytes.ofText program
  if name.isEmpty then return .error .noEntry
  else if name.contains '/' then
    match ← nodeAt? name with
    | .ok (.special (.program kind)) => return .ok kind
    | .ok _ => return .error .denied
    | .error e => return .error e
  else if name.length > programNameLimit then return .error .nameTooLong
  else if name = ['.'] || name = ['.', '.'] then return .error .denied
  else
    match ← Program.find name with
    | .program kind => return .ok kind
    | .script _ => return .error .denied
    | .missing => return .error .noEntry
    | .refused e => return .error e

/-- Run a program in a folder on an input. The error says why it cannot be run. -/
def start (tree : FileTree) (cwd : Place) (program : String) (args : List String)
    (input : List UInt8) : Except OsError Outcome :=
  let m := Machine.start tree cwd input
  match resolve program m with
  | (.ok (.ok kind), m) =>
    let (result, m) :=
      runProgram (run depthLimit) callLimit kind (Bytes.ofText program) (args.map Bytes.ofText) m
    .ok ⟨statusOf result m, m.writtenTo 1, m.writtenTo 2, m.leftIn 0⟩
  | (.ok (.error e), _) => .error e
  | (.error _, _) => .error .noEntry

end SvgSkeleton.Shell
