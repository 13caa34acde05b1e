import SvgSkeleton.Shell.Calendar
import SvgSkeleton.Shell.Utility.Files
import SvgSkeleton.Shell.Utility.Interpreter.Operation
import SvgSkeleton.Shell.Utility.Launch

/-!
What scripts do with the system: paths and files, other programs, and the time.
-/

namespace SvgSkeleton.Shell.Interpreter.SystemModule

/-! ### Files -/

/-- A path as a value. -/
def pathText (v : Value) : Run (List Char) := do
  match v with
  | .text s | .bytes s => return s
  | v =>
    match ← objectOf? v with
    | some (.record _ [("path", .text s)]) => return s
    | _ => typeError "expected str, bytes or os.PathLike object, not " v ""

/-- The result of something that the system may refuse. -/
def granted {α : Type} (path : List Char) (act : Shell (Except OsError α)) : Run α := do
  match ← inShell act with
  | .ok a => return a
  | .error e => systemError e path

/-- The ways in which a file may be opened. -/
def isMode (mode : List Char) : Bool :=
  mode.all ("rwaxbt+U".toList.contains ·)
    && (mode.filter ("rwax".toList.contains ·)).length == 1

/-- Open a file. -/
def openFile (path mode : List Char) : Run Value := do
  unless isMode mode do raiseText "ValueError" ("invalid mode: '".toList ++ mode ++ ['\''])
  let isText := !mode.contains 'b'
  let name := textBytes path
  if mode.contains 'r' then
    let content ← granted path do
      match ← nodeAt? name with
      | .ok (.folder _) => return .error .isFolder
      | _ => readFile name
    let left := if isText then textOfBytes content else content
    newObject (.file ⟨path, mode, isText, .text left, none, none, [], false⟩)
  else
    if mode.contains 'x' then
      if let .ok _ ← inShell (nodeAt? name) then systemError .present path
    let stream ← granted path do
      match ← nodeAt? name with
      | .ok (.folder _) => return .error .isFolder
      | _ => openToWrite name (mode.contains 'a') (mode.contains 'a')
    newObject (.file ⟨path, mode, isText, .nothing, some stream, none, [], false⟩)

/-! ### Paths -/

/-- Paths one behind the other; an absolute one begins anew. -/
def joined (a b : List Char) : List Char :=
  if b.head? = some '/' then b
  else if a.isEmpty || a.getLast? = some '/' then a ++ b
  else a ++ '/' :: b

/-- A path without steps that lead nowhere. -/
def normal (path : List Char) : List Char :=
  let root := path.head? == some '/'
  let kept := (Bytes.splitAt '/' path).foldl (fun (done : List (List Char)) part =>
    if part.isEmpty || part = ['.'] then done
    else if part = ['.', '.'] then
      match done with
      | last :: rest => if last = ['.', '.'] then part :: done else rest
      | [] => if root then [] else [part]
    else part :: done) []
  let body := Bytes.join ['/'] kept.reverse
  if root then '/' :: body else if body.isEmpty then ['.'] else body

/-- The folder of a path, and its last part. -/
def divided (path : List Char) : List Char × List Char :=
  let last := (path.reverse.takeWhile (· != '/')).reverse
  let front := path.take (path.length - last.length)
  let head := (front.reverse.dropWhile (· == '/')).reverse
  (if head.isEmpty then front else head, last)

/-- A path without its ending, and the ending. -/
def withEnding (path : List Char) : List Char × List Char :=
  let (_, last) := divided path
  let stem := last.dropWhile (· == '.')
  let ending := (stem.reverse.takeWhile (· != '.')).reverse
  if stem.contains '.' then
    (path.take (path.length - ending.length - 1), '.' :: ending)
  else (path, [])

def here : Run (List Char) := return textOfBytes (← inShell workingFolder)

/-- What stands at a path. -/
def node? (path : List Char) : Run (Option FileTree) := do
  match ← inShell (nodeAt? (textBytes path)) with
  | .ok node => return some node
  | .error _ => return none

def pathNames : List String :=
  ["join", "exists", "isfile", "isdir", "basename", "dirname", "splitext", "split", "abspath",
   "realpath", "normpath", "isabs", "getsize", "lexists", "expanduser", "relpath"]

/-- What is done with a path. -/
def callPath (name : String) (g : Given) : Run Value := do
  let path ← pathText (← g.need name 0 "path")
  let isThere (p : FileTree → Bool) : Run Value := return .bool ((← node? path).any p)
  match name with
  | "join" => return .text ((← (g.values.drop 1).mapM pathText).foldl joined path)
  | "exists" | "lexists" => isThere fun _ => true
  | "isfile" => isThere fun n => match n with
    | .file _ => true
    | _ => false
  | "isdir" => isThere FileTree.isFolder
  | "basename" => return .text (divided path).2
  | "dirname" => return .text (divided path).1
  | "split" => return .tuple [.text (divided path).1, .text (divided path).2]
  | "splitext" => return .tuple [.text (withEnding path).1, .text (withEnding path).2]
  | "abspath" | "realpath" => return .text (normal (joined (← here) path))
  | "normpath" => return .text (normal path)
  | "isabs" => return .bool (path.head? == some '/')
  | "getsize" =>
    let content ← granted path (readFile (textBytes path))
    return .int (content.length : Nat)
  | _ => return .text path

/-! ### The system -/

def osNames : List String :=
  ["getcwd", "getenv", "listdir", "remove", "unlink", "mkdir", "makedirs", "rename", "replace",
   "rmdir", "system", "_exit", "chdir", "getpid", "kill", "abort", "fspath"]

/-- The status of a command as the system tells it. -/
def waitStatus (result : Nat × Option Nat) : Int :=
  match result with
  | (_, some signal) => signal
  | (status, none) => status * 256

/-- Run a program as a process of its own. -/
def runProgram (command : List Bytes) (prepare : Shell Unit) : Run (Nat × Option Nat) := do
  let call := (← read).call
  match command with
  | [] => return (0, none)
  | program :: args =>
    inShell (keepingChannels do
      prepare
      inProcess (call program args))

/-- The number of the process that carries out a script. -/
def ownProcess : Int := 2

def callOs (name : String) (g : Given) : Run Value := do
  let path (n : Nat) : Run (List Char) := do pathText (← g.need name n "path")
  let silently (s : List Char) (act : Shell (Except OsError Unit)) : Run Value := do
    granted s act
    return .none
  match name with
  | "getcwd" => return .text (← here)
  | "getenv" =>
    let k ← g.need name 0 "key"
    match (← heap)[Fixed.environment]? with
    | some (.dict es) =>
      match Value.find (Value.equal (← heap)) k es with
      | some i => return (es.getD i (.none, .none)).2
      | none => return (g.get? 1 "default").getD .none
    | _ => return .none
  | "listdir" =>
    let s ← match g.some? 0 "path" with
      | some v => pathText v
      | none => pure ['.']
    match ← granted s (nodeAt? (textBytes s)) with
    | .folder entries =>
      newList (entries.reverse.map fun e => .text (textOfBytes (Bytes.ofList e.1)))
    | _ => systemError .notFolder s
  | "remove" | "unlink" =>
    let s ← path 0
    silently s do
      match ← entry? (textBytes s) with
      | .ok (_, .folder _) => return .error .isFolder
      | .ok (place, _) =>
        eraseNode place
        return .ok ()
      | .error e => return .error e
  | "mkdir" =>
    let s ← path 0
    silently s (makeFolder (textBytes s) none)
  | "makedirs" =>
    let s ← path 0
    let there := (← node? s).any FileTree.isFolder
    let calm ← match g.get? 2 "exist_ok" with
      | some v => truth v
      | none => pure false
    if there && !calm then systemError .present s
    silently s do
      match ← makeWay (textBytes s) none fun _ => return () with
      | .ok () => return .ok ()
      | .error (_, e) => return .error e
  | "rename" | "replace" =>
    let s ← path 0
    let t ← path 1
    match ← inShell ( entry? (textBytes s)) with
    | .error e =>
      let text := e.text.toList
      raiseWith "FileNotFoundError" [.int (e.number?.getD 5), .text text, .text s]
    | .ok (place, _) =>
      let m ← inShell get
      match m.tree.locateEntry m.cwd (Bytes.toList (textBytes t)) with
      | .ok goal =>
        inShell (moveNode place goal)
        return .none
      | .error e => systemError e t
  | "rmdir" =>
    let s ← path 0
    silently s (removeFolder (textBytes s))
  | "system" =>
    let s ← charsOf (← g.only "system")
    let result ← runProgram ["/bin/sh".toList, "-c".toList, textBytes s] (return ())
    return .int (waitStatus result)
  | "_exit" =>
    let n ← wholeOf (← g.need name 0 "status")
    inShell (throw (.exit (n % 256).toNat))
  | "chdir" =>
    let s ← path 0
    match ← inShell (target? (textBytes s)) with
    | .ok (place, .folder _) =>
      inShell (modify fun m => { m with cwd := place })
      return .none
    | .ok _ => systemError .notFolder s
    | .error e => systemError e s
  | "getpid" => return .int ownProcess
  | "kill" =>
    let process ← wholeOf (← g.need name 0 "pid")
    let signal ← wholeOf (← g.need name 1 "signal")
    if process = ownProcess && 0 < signal then inShell (throw (.killed signal.toNat))
    else if process = ownProcess then return .none
    else raiseWith "ProcessLookupError" [.int 3, named "No such process"]
  | "abort" => inShell (throw (.killed 6))
  | _ => return .text (← path 0)

/-! ### Other programs -/

def processNames : List String := ["run", "call", "check_call", "check_output", "getoutput"]

/-- What stands for a goal of what other programs write. -/
def pipe : Int := -1
def errorsToOutput : Int := -2
def nowhere : Int := -3

/-- The command that a value is. -/
def commandOf (g : Given) : Run (List Bytes) := do
  let v ← g.need "run" 0 "args"
  let isShell ← match g.named.lookup "shell" with
    | some v => truth v
    | none => pure false
  match v with
  | .text s =>
    return if isShell then ["/bin/sh".toList, "-c".toList, textBytes s] else [textBytes s]
  | v =>
    let parts ← (← itemsOf v).mapM fun v => do return textBytes (← pathText v)
    return if isShell then "/bin/sh".toList :: "-c".toList :: parts else parts

/-- What another program has done: its status, and what it has written. -/
structure Outcome where
  status : Int
  output : Option Bytes
  errors : Option Bytes

/-- Does a value with a name count as true? -/
def isGiven (g : Given) (name : String) : Run Bool := do
  match g.named.lookup name with
  | some v => truth v
  | none => return false

/-- Run another program. -/
def performed (g : Given) (captures : Bool) : Run Outcome := do
  let command ← commandOf g
  let program := command.headD []
  if let some e ← inShell (Launching.obstacle? program) then
    systemError e (textOfBytes program)
  let goal (name : String) : Run (Option Int) := do
    match g.some? 100 name with
    | some v => return v.whole?
    | none => return none
  let file (name : String) : Run (Option Nat) := do
    match (← get).heap, g.named.lookup name with
    | h, some (.object n) => match h[n]? with
      | some (.file f) => return f.stream
      | _ => return none
    | _, _ => return none
  let all := captures || (← isGiven g "capture_output")
  let out ← if all then pure (some pipe) else goal "stdout"
  let errors ← if ← isGiven g "capture_output" then pure (some pipe) else goal "stderr"
  let outFile ← file "stdout"
  let errorFile ← file "stderr"
  let outSink ← inShell (newStream (.sink []))
  let errorSink ← inShell (newStream (.sink []))
  let nothing ← inShell (newStream .null)
  let source ← match g.some? 100 "input" with
    | some v => do
      let s ← charsOf v
      let content := match v with
        | .text _ => textBytes s
        | _ => s
      pure (some (← inShell (newStream (.source content))))
    | none => if (← goal "stdin") == some nowhere then pure (some nothing) else pure none
  let (status, signal) ← runProgram command do
    if let some n := source then lead 0 (some n)
    if out = some pipe then lead 1 (some outSink)
    else if out = some nowhere then lead 1 (some nothing)
    else if let some n := outFile then lead 1 (some n)
    if errors = some pipe then lead 2 (some errorSink)
    else if errors = some nowhere then lead 2 (some nothing)
    else if errors = some errorsToOutput then lead 2 (← streamOf? 1)
    else if let some n := errorFile then lead 2 (some n)
  let m ← inShell get
  let written (n : Nat) : Bytes := match m.streams[n]? with
    | some (.sink pieces) => collected pieces
    | _ => []
  return { status := match signal with
             | some s => -(s : Int)
             | none => status
           output := if out = some pipe then some (written outSink) else none
           errors := if errors = some pipe then some (written errorSink) else none }

/-- Complain of a program that has failed. -/
def checkStatus (g : Given) (o : Outcome) : Run Unit := do
  if o.status != 0 then
    let command ← g.need "run" 0 "args"
    let shown := command.shown (← heap)
    let rest :=
      if o.status < 0 then " died with <Signals.".toList ++ Bytes.ofInt (-o.status) ++ ">.".toList
      else " returned non-zero exit status ".toList ++ Bytes.ofInt o.status ++ ['.']
    raiseText "subprocess.CalledProcessError" ("Command '".toList ++ shown ++ ['\''] ++ rest)

def callProcess (name : String) (g : Given) : Run Value := do
  let isText := (← isGiven g "text") || (← isGiven g "universal_newlines")
    || (g.some? 100 "encoding").isSome
  let value (s : Option Bytes) : Value := match s with
    | none => .none
    | some s => if isText then .text (textOfBytes s) else .bytes s
  match name with
  | "run" =>
    let o ← performed g false
    if ← isGiven g "check" then checkStatus g o
    newObject (.record "CompletedProcess" [("args", ← g.need name 0 "args"),
      ("returncode", .int o.status), ("stdout", value o.output), ("stderr", value o.errors)])
  | "call" => return .int (← performed g false).status
  | "check_call" =>
    let o ← performed g false
    checkStatus g o
    return .int 0
  | "getoutput" =>
    let o ← performed { g with named := ("shell", .bool true) :: g.named } true
    return .text (TextMethod.stripped (· == '\n') false true (textOfBytes (o.output.getD [])))
  | _ =>
    let o ← performed g true
    checkStatus g o
    return value o.output

/-! ### The time -/

def timeNames : List String :=
  ["time", "sleep", "strftime", "monotonic", "perf_counter", "time_ns", "process_time"]

/-- The time in milliseconds. -/
def milliseconds : Run Int := return now (← inShell get)

def callTime (name : String) (g : Given) : Run Value := do
  match name with
  | "sleep" =>
    if (← numberOf (← g.only "sleep")).isNegative then
      raise "ValueError" "sleep length must be non-negative"
    let span := Floating.mul .double (← numberOf (← g.only "sleep")) (Floating.ofInt 1000)
    inShell (Launching.wait ((span.toInt?).map Int.toNat))
    return .none
  | "strftime" =>
    let format ← charsOf (← g.need name 0 "format")
    let moment := Calendar.Moment.ofSeconds ((← milliseconds) / 1000) 0
    return .text (moment.formatted format)
  | "time_ns" => return .int ((← milliseconds) * 1000000)
  | _ =>
    let n ← milliseconds
    return .float (Floating.ofQuotient .double (n < 0) n.natAbs 1000)

end SvgSkeleton.Shell.Interpreter.SystemModule
