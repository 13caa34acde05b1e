import SvgSkeleton.Shell.Builtin
import SvgSkeleton.Shell.Reader

/-!
Running scripts line by line, and what signals and the end of a script make a shell do: first words
at work, how they are expanded where commands in them are run, and what they redirect.
-/

namespace SvgSkeleton.Shell

/-- A way to run a command. -/
abbrev Runner := Command → Shell Unit

/-! ### Repetition -/

/-- Do something again and again, from one state to the next, while there is one. -/
def iterate {σ : Type} (step : σ → Shell (Option σ)) :
    Nat → σ → Machine → Except Stop Unit × Machine
  | 0, _, m =>
    match m.deadline with
    | some t => (.error .timedOut, { m with time := t })
    | none => (.error (.killed Signal.ending), m)
  | n + 1, s, m =>
    match step s m with
    | (.ok (some s), m) => iterate step n s m
    | (.ok none, m) => (.ok (), m)
    | (.error e, m) => (.error e, m)

/-- How many rounds a loop may have. -/
def roundLimit : Nat := 1000000

/-! ### Expansion -/

/-- All that has been written to a stream. -/
def written (i : Nat) : Shell Bytes := do
  match (← get).streams[i]? with
  | some (.sink pieces) => return collected pieces
  | _ => return []

/-- What a command writes, without the line feeds at its end. -/
def outputOf (run : Runner) (c : Command) : Shell Bytes := do
  let status := (← get).status
  let i ← newStream (.sink [])
  keepingChannels do
    lead 1 (some i)
    isolated c.isSimple do
      modify fun m => { m with tested := false }
      run c
  modify fun m => { m with substituted := some m.status, status := status }
  let out ← written i
  setStream i .null
  return Bytes.trimNewlines (out.filter (· != '\x00'))

/-- How deep words may be nested in words. -/
def nestingLimit : Nat := 500

/-- The pieces of a word. -/
def expandWithin (run : Runner) : Nat → Bool → Word → Shell (List Piece)
  | 0, _, _ => throw (.killed Signal.fault)
  | fuel + 1, splits, w => do
    return (← w.mapM (Expansion.ofPart (expandWithin run fuel) (outputOf run) splits)).flatten

def expand (run : Runner) : Expander := expandWithin run nestingLimit

/-- Are the arguments of a command definitions? -/
def takesDefinitions : List Word → Bool
  | [.text false s] :: rest =>
    if s = "command".toList then takesDefinitions rest else Builtin.assignsArguments s
  | _ => false

/-- The fields of the words of a command. Where arguments are definitions, their values are not
split. -/
def fieldsOfWords (run : Runner) (words : List Word) : Shell (List Bytes) := do
  let defines := takesDefinitions words
  return (← words.mapM fun w => do
    match if defines then Reader.assignment? w else none with
    | some (name, value) => return [name ++ '=' :: (← definedBy (expand run) value)]
    | none => fieldsOf (expand run) w).flatten

/-! ### Redirections -/

/-- How opening a file is called, and what is said where there is no such file. -/
structure Opening where
  verb : String
  missing : String

def Opening.toRead : Opening := ⟨"open", "No such file"⟩

def Opening.toWrite : Opening := ⟨"create", "Directory nonexistent"⟩

/-- Why a file cannot be opened. -/
def Opening.reason (o : Opening) (e : OsError) : String :=
  if e = .noEntry || e = .notFolder then o.missing else e.text

/-- Lead a channel to what has been opened. -/
def leadTo (channel : Nat) (o : Opening) (path : Bytes) (opened : Except OsError Nat) :
    Shell Bool := do
  match opened with
  | .ok i =>
    lead channel (some i)
    return true
  | .error e =>
    complain (("cannot " ++ o.verb ++ " ").toList ++ path ++ ": ".toList ++ (o.reason e).toList)
    return false

/-- Open a file to write it anew. Where files are not to be overwritten, one that is there cannot
be opened. -/
def openAnew (path : Bytes) : Shell (Except OsError Nat) := do
  if ← isOn 'C' then
    match ← nodeAt? path with
    | .ok (.file _) | .ok (.special (.program _)) => return .error .present
    | _ => openToWrite path false false
  else openToWrite path false false

/-- Carry out a redirection; may fail with a complaint. -/
def redirect (run : Runner) (r : Redirection) : Shell Bool := do
  let (channel, direction, word) := r
  match direction with
  | .here id =>
    let text := ((← get).texts.lookup id).getD []
    let i ← newStream (.source (Expansion.plain (← expand run false text)))
    lead channel (some i)
    return true
  | .copy =>
    match ← stringOf (expand run) word with
    | ['-'] =>
      lead channel none
      return true
    | [c] =>
      if !c.isDigit then failWith "Syntax error: Bad fd number".toList
      let target := Text.digitValue c
      match ← streamOf? target with
      | some i =>
        lead channel (some i)
        return true
      | none =>
        if target = channel then return true
        complain ([c] ++ ": Bad file descriptor".toList)
        return false
    | _ => failWith "Syntax error: Bad fd number".toList
  | direction =>
    let path ← stringOf (expand run) word
    match direction with
    | .read => leadTo channel .toRead path (← openToRead path)
    | .readWrite => leadTo channel .toWrite path (← openFor .both true path)
    | .append => leadTo channel .toWrite path (← openToWrite path true true)
    | .write => leadTo channel .toWrite path (← openAnew path)
    | _ => leadTo channel .toWrite path (← openToWrite path false false)

/-- Carry out redirections in turn, up to one that fails. -/
def redirectAll (run : Runner) : List Redirection → Shell Bool
  | [] => return true
  | r :: rest => do
    if ← redirect run r then redirectAll run rest else return false

/-- Run a script, line by line. -/
def evaluate (run : Runner) (script : Bytes) : Shell Unit := do
  let script := script.filter (· != '\x00')
  let start := Reader.Source.ofScript script (← get).texts.length
  iterate (fun ((source, idle) : Reader.Source × Bool) => do
    let source := { source with aliases := (← get).aliases }
    match Reader.nextLine.run source with
    | .error fault =>
      modify fun m => { m with line := fault.line }
      failWith ("Syntax error: ".toList ++ fault.reason.toList)
    | .ok (none, _) =>
      if idle then setStatus 0
      return none
    | .ok (some c, source) =>
      let old := (← get).texts
      modify fun m => { m with texts := source.texts ++ old }
      run c
      let nothing := match c with
        | .nothing => true
        | _ => false
      return some ({ source with texts := [] }, idle && nothing)) (script.length + 2) (start, true)

/-- Run what has been set to be run on a signal; the status stays what it was. -/
def runTrap (run : Runner) (action : Bytes) : Shell Unit := do
  let m ← get
  set { m with command := none }
  evaluate run action
  modify fun m' => { m' with status := m.status, command := m.command }

/-- Take a signal: what has been set for it runs, and else it ends the process. -/
def takeSignal (run : Runner) (n : Nat) : Shell Unit := do
  let name := (Signal.names.getD n "").toList
  let traps := (← get).traps
  let caught := if n = Signal.ending then none else traps.lookup name
  match caught with
  | some action => unless action.isEmpty do runTrap run action
  | none => unless Signal.isHarmless n do throw (.killed n)

/-- Take the signals that have been sent to this process from within another one. -/
def takePending (run : Runner) : Shell Unit := do
  let m ← get
  if m.pending.isEmpty then return ()
  let (mine, others) := m.pending.partition (·.1 == m.own)
  set { m with pending := others }
  mine.forM fun s => takeSignal run s.2

/-- Do something as a shell does all its work: at the end comes what has been set to be run
then. -/
def withExitTrap (run : Runner) (act : Shell Unit) : Shell Unit := fun m =>
  let (r, m') := act m
  match r with
  | .error (.killed _) | .error .timedOut => (r, m')
  | r =>
    let status := match r with
      | .error (.exit n) | .error (.leaveFunction n) => n
      | .error .failed => 2
      | _ => m'.status
    match m'.traps.lookup "EXIT".toList with
    | none => (.error (.exit status), m')
    | some action =>
      let m' := { m' with traps := [], status := status, command := none, tested := false }
      match evaluate run action m' with
      | (.ok (), m'') => (.error (.exit status), m'')
      | (.error (.leaveFunction n), m'') => (.error (.exit n), m'')
      | (.error (.leaveLoop _), m'') | (.error (.nextRound _), m'') =>
        (.error (.exit status), m'')
      | (.error e, m'') => (.error e, m'')

/-- Run a command in a shell of its own. -/
def inSubshell (run : Runner) (c : Command) : Shell Unit :=
  isolated c.isSimple (withExitTrap run (run c))

/-! ### Signals -/

/-- Send a signal to a process: to this shell, to one around it, or to a job. -/
def sendSignal (run : Runner) (n process : Nat) : Shell Bool := do
  let m ← get
  let parent := (((← valueOf? "PPID".toList).bind Bytes.toNat?).getD 0)
  let process := if process = 0 then m.process else process
  if process = m.own then
    if n != 0 then takeSignal run n
    return true
  else if process = m.process then
    set { m with pending := m.pending ++ [(m.process, n)] }
    return true
  else if process = parent then
    set { m with pending := m.pending ++ [(process, n)] }
    return true
  else
    match m.jobs.find? (·.process == process) with
    | some j =>
      if j.ends > m.time && !Signal.isHarmless n then
        Builtin.changeJob process fun j =>
          { j with status := 128 + n, signal := some n, ends := m.time }
      return !j.waited
    | none => return false

/-- The process that a target of `kill` means. -/
def targetProcess (s : Bytes) : Shell Nat := do
  match s with
  | '%' :: _ => return (← Builtin.job? s).process
  | '-' :: r => Builtin.number r
  | s => Builtin.number s

/-- Send a signal to some processes. -/
def sendAll (run : Runner) (n : Nat) (targets : List Bytes) : Shell Nat := do
  let outcomes ← targets.mapM fun s => do
    let sent ← sendSignal run n (← targetProcess s)
    unless sent do complain "No such process\n".toList
    return sent
  return if outcomes.all id then 0 else 1

/-- List the names of signals, or the name of one. -/
def listSignals (args : List Bytes) : Shell Nat := do
  match args with
  | [] =>
    say "0\n"
    (Signal.names.drop 1).forM fun name => say (name ++ "\n")
    return 0
  | s :: _ =>
    let n ← Builtin.number s
    let n := if n > 128 then n - 128 else n
    match if n = 0 then none else Signal.names[n]? with
    | some name =>
      say (name ++ "\n")
      return 0
    | none => failWith ("invalid signal number or exit status: ".toList ++ s)

def kill (run : Runner) (args : List Bytes) : Shell Nat := do
  let usage {α : Type} : Shell α := failWith
    ("Usage: kill [-s sigspec | -signum | -sigspec] [pid | job]... or\n"
      ++ "kill -l [exitstatus]").toList
  let ofText? (s : Bytes) : Option Nat := (Signal.ofText? s).filter fun n => n > 0 || s = ['0']
  match args with
  | [] => usage
  | ('-' :: s) :: rest =>
    match ofText? s with
    | some n => if rest.isEmpty then usage else sendAll run n rest
    | none =>
      let (options, targets) ← Builtin.valuedOptions "l" "s" args
      let signal ← match options.reverse.lookup 's' with
        | some name =>
          match ofText? name with
          | some n => pure (some n)
          | none => failWith ("invalid signal number or name: ".toList ++ name)
        | none => pure none
      if options.any (·.1 == 'l') then
        if signal.isSome then usage else listSignals targets
      else if targets.isEmpty then usage
      else sendAll run (signal.getD Signal.term) targets
  | targets => sendAll run Signal.term targets

end SvgSkeleton.Shell
