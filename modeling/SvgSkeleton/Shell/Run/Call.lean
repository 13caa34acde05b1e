import SvgSkeleton.Shell.Program
import SvgSkeleton.Shell.Run.Evaluate
import SvgSkeleton.Shell.Utility.Options

/-!
Calling commands: programs, functions, and the commands of a shell itself. A shell is a program,
too. When their output could not be written or their input was closed, programs say so at their end
and leave a status of their own.
-/

namespace SvgSkeleton.Shell

namespace Leaving

/-- What a program leaves behind: the lines that it complains with, and its status. -/
structure Verdict where
  lines : List Bytes
  status : Nat

/-- The programs that write each line on its own. What went wrong with a line is not known any more
at the end. -/
def lineWriters : List String :=
  ["wc", "du", "sum", "cksum", "b2sum", "md5sum", "sha1sum", "sha224sum", "sha256sum", "sha384sum",
   "sha512sum"]

/-- The statuses of failed writing that are not 1. -/
def statuses : List (String × Nat) :=
  [("ls", 2), ("dir", 2), ("vdir", 2), ("grep", 2), ("egrep", 2), ("fgrep", 2), ("rgrep", 2),
   ("printenv", 2), ("sort", 2), ("diff", 2), ("cmp", 2), ("awk", 2), ("mawk", 2), ("nawk", 2),
   ("expr", 3), ("sed", 4), ("env", 125)]

/-- The complaints of a kind of program, whose output was closed or could not be written for
another reason. -/
def complaints (kind : String) (closed : Bool) (reason : Bytes) : List Bytes :=
  let usual := "write error: ".toList ++ reason
  let output := "standard output: ".toList ++ reason
  let quoted := "'standard output': ".toList ++ reason
  match kind with
  | "cat" => [if closed then output else usual]
  | "diff" | "cmp" | "yes" => [output]
  | "tee" => [quoted]
  | "sort" => ["fflush failed: ".toList ++ quoted, "write error".toList]
  | "find" => [quoted, if closed then usual else "write error".toList]
  | "sed" => [(if closed then "couldn't close" else "couldn't flush").toList
      ++ " stdout: ".toList ++ reason]
  | "awk" | "mawk" | "nawk" =>
    ["close failed on file \"/dev/stdout\" (".toList ++ reason ++ [')']]
  | _ => [if lineWriters.contains kind && !closed then "write error".toList else usual]

/-- What a program of a kind and a name leaves behind. -/
def verdict (kind : String) (name : Bytes) (closed : Bool) (e : OsError) (status : Nat) :
    Verdict :=
  let reason := reasonText e
  match kind with
  | "rev" => if closed then ⟨[], status⟩ else ⟨[name ++ ": write error: ".toList ++ reason], 1⟩
  | "python3" =>
    if closed then ⟨[], status⟩
    else
      let number := Bytes.ofNat (e.number?.getD 0)
      ⟨[("Exception ignored in: <_io.TextIOWrapper name='<stdout>' mode='w' "
        ++ "encoding='utf-8'>").toList,
        "OSError: [Errno ".toList ++ number ++ "] ".toList ++ reason], 120⟩
  | _ =>
    ⟨(complaints kind closed reason).map fun l => name ++ ": ".toList ++ l,
      (statuses.lookup kind).getD 1⟩

/-- What cannot be closed at the end where the input was closed from the start. -/
def unclosed? (kind : String) : Option String :=
  if ["cat", "fmt"].contains kind then some "closing standard input"
  else if ["head", "tail", "wc", "cut", "paste", "nl", "fold", "expand", "unexpand",
      "tac"].contains kind then some "-"
  else if kind = "dd" then some "closing input file 'standard input'"
  else if ["od", "tee", "sum", "cksum"].contains kind || (kind.endsWith "sum") then
    some "standard input"
  else none

end Leaving

/-! ### Shells as programs -/

/-- The variables that a shell begins with, besides those that it is given. -/
def usualVariables (parent : Nat) : List (Bytes × Variable) :=
  let set (name : String) (value : Bytes) : Bytes × Variable :=
    (name.toList, ⟨some value, false, false⟩)
  [set "IFS" " \t\n".toList, set "OPTIND" "1".toList, set "PPID" (Bytes.ofNat parent),
   set "PATH" "/usr/local/sbin:/usr/local/bin:/usr/sbin:/usr/bin:/sbin:/bin".toList,
   set "PS1" "# ".toList, set "PS2" "> ".toList, set "PS4" "+ ".toList]

/-- What the arguments of a shell ask for: a script or the name of a file that holds one, else
the script is the input. -/
structure Invocation where
  script : Option Bytes
  file : Option Bytes
  name : Option Bytes
  args : List Bytes

/-- Carry out the letters of an option of a shell, where `c` asks for a script. -/
def startLetters (on script : Bool) : Bytes → List Bytes → Shell (Bool × List Bytes)
  | [], rest => return (script, rest)
  | 'c' :: letters, rest => startLetters on true letters rest
  | 'l' :: letters, rest => startLetters on script letters rest
  | 'o' :: letters, rest => do
    match rest with
    | [] => Builtin.showSettings (!on)
    | name :: _ => Builtin.switchNamed on name
    startLetters on script letters rest.tail
  | c :: letters, rest => do
    Builtin.switchLetter on c
    startLetters on script letters rest

/-- Read the options of a shell. The flag says that a script is asked for. -/
def startOptions : Nat → Bool → List Bytes → Shell (Bool × List Bytes)
  | 0, script, args => return (script, args)
  | fuel + 1, script, args =>
    match args with
    | ['-'] :: rest | ['-', '-'] :: rest => return (script, rest)
    | (sign :: letters) :: rest => do
      if sign != '-' && sign != '+' then return (script, args)
      let (script, rest) ← startLetters (sign == '-') script letters rest
      startOptions fuel script rest
    | args => return (script, args)

/-- Find out what a shell is to do. -/
def invocation (args : List Bytes) : Shell Invocation := do
  let (script, rest) ← startOptions (args.length + 1) false args
  if script then
    match rest with
    | [] => failWith "-c requires an argument".toList
    | text :: rest => return ⟨some text, none, rest.head?, rest.tail⟩
  else if ← isOn 's' then return ⟨none, none, none, rest⟩
  else
    match rest with
    | [] =>
      modify fun m => { m with switches := 's' :: m.switches }
      return ⟨none, none, none, []⟩
    | file :: rest => return ⟨none, some file, some file, rest⟩

/-- Be a shell: read the arguments, then run the script. -/
def beShell (run : Runner) (args : List Bytes) : Shell Unit := do
  let call ← invocation args
  modify fun m => { m with args := call.args }
  let begin (name : Bytes) (script : Bytes) : Shell Unit := do
    modify fun m => { m with name := name, line := 1 }
    evaluate run script
  let name := call.name.getD (← get).name
  match call.script, call.file with
  | some script, _ => begin name script
  | none, some path =>
    match ← openToRead path with
    | .error e => failWith ("cannot open ".toList ++ path ++ ": ".toList
        ++ (Opening.toRead.reason e).toList)
    | .ok _ => begin name ((← readFile path).toOption.getD [])
  | none, none => begin name (← readAll 0)

/-- Begin as a shell of a name: of the variables those stay that are exported. -/
def startAfresh (name : Bytes) : Shell Unit := do
  let m ← get
  let given := m.definitions.filter (·.2.exported)
  let usual := (usualVariables m.host).filter fun e =>
    (given.lookup e.1).isNone || e.1 = "IFS".toList || e.1 = "PPID".toList
  let given := given.filter fun e => e.1 != "IFS".toList && e.1 != "PPID".toList
  let folder ← workingFolder
  let here : List (Bytes × Variable) := if (given.lookup "PWD".toList).isSome then []
    else [("PWD".toList, ⟨some folder, true, false⟩)]
  set { m with
    definitions := here ++ usual ++ given, functions := [], name := name, args := [], line := 0
    status := 0, substituted := none, command := none, optionIndex := 1, optionOffset := none
    switches := [], tested := false, hidden := [], loops := 0
    process := m.processes + 1, own := m.processes + 1, host := m.processes + 1
    traps := m.traps.filter (·.2.isEmpty), processes := m.processes + 1
    jobs := [], background := none, aliases := [], hashed := [], givenLast := [] }

/-- Do something as a program: what ends it by a signal is left to whoever has called it. -/
def asProgram (act : Shell Nat) : Shell Nat := do
  let (status, signal) ← inProcess act
  match signal with
  | some n => throw (.killed n)
  | none => return status

/-- A shell as a program among others. -/
def shellProgram (run : Runner) (name : Bytes) (args : List Bytes) : Shell Nat := asProgram do
  startAfresh name
  withExitTrap run (beShell run args)
  return (← get).status

/-- Run a file that has been made a program. What it holds is a script. -/
def runScript (run : Runner) (place : Place) (name : Bytes) (args : List Bytes) : Shell Nat :=
  asProgram do
    let path := Bytes.ofList (FileTree.absolutePath place)
    let script := (← readFile path).toOption.getD []
    startAfresh name
    modify fun m => { m with args := args, line := 1 }
    withExitTrap run (evaluate run script)
    return (← get).status

/-! ### Programs -/

/-- Complain about what a command of the shell has not written. -/
def checkWritten (name : Bytes) (status : Nat) : Shell Nat := do
  match (← get).unwritten with
  | none => return status
  | some _ =>
    modify fun m => { m with unwritten := none }
    complain (name ++ ": I/O error".toList)
    return 1

/-- Close the channels of a program at its end, and complain about what has not been written and
about an input that cannot be closed. -/
def closeChannels (kind : String) (name : Bytes) (status : Nat) : Shell Nat := do
  let m ← get
  set { m with unwritten := none, unread := false }
  let status ← match m.unwritten with
    | none => pure status
    | some e => do
      let verdict := Leaving.verdict kind name (← streamOf? 1).isNone e status
      verdict.lines.forM fun l => write 2 (l ++ ['\n'])
      pure verdict.status
  if m.unread then
    if let some text := Leaving.unclosed? kind then
      utilityError name (text.toList ++ ": ".toList ++ reasonText .badChannel)
      return max status 1
  return status

/-- Run a program of a kind under a name. -/
def runProgram (run : Runner) : Nat → String → Bytes → List Bytes → Shell Nat
  | 0, _, _, _ => throw (.killed Signal.fault)
  | fuel + 1, kind, name, args => do
    if Program.shellNames.contains kind then shellProgram run name args
    else
      let inner (name : Bytes) (args : List Bytes) : Shell Nat := do
        match ← Program.find name with
        | .program kind => runProgram run fuel kind name args
        | .script place => runScript run place name args
        | _ => return 127
      asProgram do
        let status ← Program.utility inner kind name args
        closeChannels kind name status

/-- How deep programs may call each other. -/
def callLimit : Nat := 50

/-- Call the program that is found under a name. -/
def callProgram (run : Runner) (name : Bytes) (args : List Bytes) : Shell Nat := do
  match ← Program.find name with
  | .program kind => runProgram run callLimit kind name args
  | .script place => runScript run place name args
  | .missing =>
    complain (name ++ (if name.isEmpty then ": Permission denied" else ": not found").toList)
    return 127
  | .refused e =>
    complain (name ++ ": ".toList ++ reasonText e)
    return 126

/-- Do something that leaves a status or dies, and tell of the signal that has ended it. -/
def tellingDeath (act : Shell Nat) : Shell Nat := fun m =>
  match act m with
  | (.error (.killed n), m') =>
    match tellDeath n { m with tree := m'.tree, streams := m'.streams } with
    | (_, m'') =>
      (.ok (128 + n), m.afterProcess { m' with tree := m''.tree, streams := m''.streams })
  | r => r

/-! ### Functions and commands of the shell -/

/-- Run a function. -/
def callFunction (run : Runner) (body : Command) (args : List Bytes) : Shell Unit := fun m =>
  let (r, m') := run body
    { m with args := args, hidden := [] :: m.hidden, loops := 0, command := none
             optionIndex := 1, optionOffset := none }
  let saved := m'.hidden.headD []
  let (_, m') := Builtin.restore saved m'
  let m' := { m' with args := m.args, hidden := m.hidden, loops := m.loops, command := m.command
                      optionIndex := m.optionIndex, optionOffset := m.optionOffset }
  match r with
  | .error (.leaveFunction n) => (.ok (), { m' with status := n })
  | r => (r, m')

/-- Give variables values while something is done. -/
def withVariables {α : Type} (assignments : List (Bytes × Bytes)) (act : Shell α) : Shell α := do
  let saved ← assignments.mapM fun (name, value) => do
    let old ← definition? name
    assign name value
    setVariable name ⟨some value, true, false⟩
    return (name, old)
  let result ← act
  Builtin.restore saved.reverse
  return result

/-- Do something under the name of a command of the shell. -/
def asCommand {α : Type} (name : Bytes) (act : Shell α) : Shell α := fun m =>
  match act { m with command := some name } with
  | (r, m') => (r, { m' with command := m.command })

/-- Run the script in a file. -/
def source (run : Runner) (args : List Bytes) : Shell Nat := do
  let (_, args) ← Builtin.options "" args
  match args with
  | [] => return 0
  | path :: _ =>
    let found ← if path.contains '/' then pure (some path)
      else do
        let candidates := (← Program.folders).map fun f =>
          if f.isEmpty then path else inFolder f path
        candidates.findM? fun p => do return (← readFile p).toOption.isSome
    match found with
    | none => failWith (path ++ ": not found".toList)
    | some p =>
      match ← openToRead p with
      | .error e => failWith ("cannot open ".toList ++ p ++ ": ".toList
          ++ (Opening.toRead.reason e).toList)
      | .ok _ =>
        let script := (← readFile p).toOption.getD []
        let run' : Shell Unit := asCommand p (evaluate run script)
        fun m =>
          match run' m with
          | (.error (.leaveFunction n), m) => (.ok n, m)
          | (.ok (), m) => (.ok m.status, m)
          | (.error e, m) => (.error e, m)

/-! ### What names stand for -/

/-- What a name stands for as a command, in a sentence or in a short form. -/
def describe (short : Bool) (name : Bytes) : Shell (Option Bytes) := do
  let m ← get
  let long (s : String) : Bytes := if short then name else name ++ s.toList
  if Reader.reservedWords.contains name then return some (long " is a shell keyword")
  if let some value := m.aliases.lookup name then
    return some (if short then "alias ".toList ++ (Builtin.showAlias name value).dropLast
      else name ++ " is an alias for ".toList ++ value)
  if Builtin.isName name && isSpecialCommand name then
    return some (long " is a special shell builtin")
  if (m.functions.lookup name).isSome then return some (long " is a shell function")
  if Builtin.isName name then return some (long " is a shell builtin")
  if name.contains '/' then
    return if (← nodeAt? name).toOption.isSome then some (long (" is " ++ String.ofList name))
      else none
  let tracked := (m.hashed.lookup name).isSome
  match ← Program.path? name with
  | some path =>
    Program.remember name path
    return some (if short then path
      else name ++ (if tracked then " is a tracked alias for " else " is ").toList ++ path)
  | none => return none

/-- Tell what names stand for. -/
def describeAll (short : Bool) (names : List Bytes) : Shell Nat := do
  let outcomes ← names.mapM fun name => do
    match ← describe short name with
    | some text =>
      write 1 (text ++ ['\n'])
      return true
    | none =>
      unless short do write 1 (name ++ ": not found\n".toList)
      return false
  return if outcomes.all id then 0 else 127

/-- `command` with options that ask what a name stands for. -/
def describeOne (args : List Bytes) : Shell Nat := do
  let (letters, names) ← Builtin.options "pvV" args
  match letters.contains 'V', letters.contains 'v', names with
  | true, _, name :: _ => describeAll false [name]
  | false, true, name :: _ => describeAll true [name]
  | _, _, _ => return 0

/-! ### Calls -/

/-- Do something that leaves a status, and keep the status. -/
def keepStatus (act : Shell Nat) : Shell Unit := do setStatus (← act)

/-- Call a program in the environment that assignments in front of it make. -/
def callExternal (run : Runner) (assignments : List (Bytes × Bytes)) (name : Bytes)
    (args : List Bytes) : Shell Unit :=
  keepStatus (withVariables assignments (tellingDeath (callProgram run name args)))

/-- Run a command of the shell whose commands are its own. -/
def callBuiltin (run : Runner) (name : Bytes) (args : List Bytes) : Shell Unit := do
  match Builtin.table.lookup (String.ofList name) with
  | some act =>
    keepStatus (asCommand name do
      let status ← act args
      checkWritten name status)
  | none =>
    match String.ofList name with
    | "eval" =>
      let (_, args) ← asCommand name (Builtin.options "" args)
      if args.isEmpty then setStatus 0
      else asCommand name (evaluate run (Bytes.join [' '] args))
    | "." => keepStatus (asCommand name (source run args))
    | "kill" => keepStatus (asCommand name (kill run args))
    | "type" =>
      let (_, args) ← asCommand name (Builtin.options "" args)
      keepStatus (asCommand name (describeAll false args))
    | "command" => keepStatus (asCommand name (describeOne args))
    | _ => setStatus 0

/-- Do something whose failure does not end the script. -/
def recovering (act : Shell Unit) : Shell Unit := fun m =>
  match act m with
  | (.error .failed, m') => (.ok (), { m' with status := 2 })
  | r => r

/-- How a command is called that is found under a name. A command that is not to be a function is
looked up without them. -/
def call (run : Runner) (functions : Bool) (assignments : List (Bytes × Bytes)) (name : Bytes)
    (args : List Bytes) : Shell Unit := do
  let known := (← get).functions
  let function := if functions && !isSpecialCommand name then known.lookup name else none
  match function with
  | some body => withVariables assignments (callFunction run body args)
  | none =>
    if Builtin.isName name then
      if functions && isSpecialCommand name then
        assignments.forM fun (x, v) => assign x v
        callBuiltin run name args
      else withVariables assignments (recovering (callBuiltin run name args))
    else callExternal run assignments name args

/-- `exec`: the program takes the place of the shell. -/
def replaceShell (run : Runner) (assignments : List (Bytes × Bytes)) (args : List Bytes) :
    Shell Unit := do
  let (_, args) ← asCommand "exec".toList (Builtin.options "" args)
  match args with
  | [] => setStatus 0
  | name :: args =>
    match ← asCommand "exec".toList (Program.find name) with
    | .program _ | .script _ =>
      modify fun m => { m with traps := [] }
      let status ← withVariables assignments (callProgram run name args)
      throw (.exit status)
    | _ =>
      asCommand "exec".toList (callExternal run assignments name args)
      throw (.exit (← get).status)

/-- The command behind the options of `command`, if it is to be run. -/
def behindOptions : List Bytes → Option (List Bytes)
  | ['-', '-'] :: rest => some rest
  | ('-' :: c :: letters) :: rest =>
    if (c :: letters).all (· == 'p') then behindOptions rest else none
  | args => some args

/-- Call a command by its fields. -/
def callFields (run : Runner) (assignments : List (Bytes × Bytes)) : List Bytes → Shell Unit
  | [] => return ()
  | name :: args =>
    match String.ofList name with
    | "exec" => replaceShell run assignments args
    | "command" =>
      match behindOptions args with
      | none => call run false assignments name args
      | some [] => setStatus 0
      | some (inner :: args) =>
        if String.ofList inner == "exec" then replaceShell run assignments args
        else recovering (call run false assignments inner args)
    | _ => call run true assignments name args

end SvgSkeleton.Shell
