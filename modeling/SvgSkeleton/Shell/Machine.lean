import SvgSkeleton.FileTree
import SvgSkeleton.Shell.Bytes
import SvgSkeleton.Shell.Script

/-!
The state of a shell at work: the files, the streams that are open, and the variables. What the
shell and its utilities do is a change of this state that may be stopped.

A process may be ended by a signal; signals have names and numbers, and something is said of a
process that one of them has ended.
-/

/-! ### Signals -/

namespace SvgSkeleton.Shell.Signal

/-- The first signals by their numbers, each with its name and with what a shell says of a process
that it has ended. A shell is silent about an interrupted process and about one whose output nobody
reads, and some signals end no process. The first one stands for the end of a script. -/
def table : List (String × Option String) :=
  [("EXIT", none), ("HUP", some "Hangup"), ("INT", none), ("QUIT", some "Quit"),
   ("ILL", some "Illegal instruction"), ("TRAP", some "Trace/breakpoint trap"),
   ("ABRT", some "Aborted"), ("BUS", some "Bus error"), ("FPE", some "Floating point exception"),
   ("KILL", some "Killed"), ("USR1", some "User defined signal 1"),
   ("SEGV", some "Segmentation fault"), ("USR2", some "User defined signal 2"), ("PIPE", none),
   ("ALRM", some "Alarm clock"), ("TERM", some "Terminated"), ("16", some "Stack fault"),
   ("CHLD", none), ("CONT", none), ("STOP", none), ("TSTP", none), ("TTIN", none), ("TTOU", none),
   ("URG", none), ("XCPU", some "CPU time limit exceeded"),
   ("XFSZ", some "File size limit exceeded"), ("VTALRM", some "Virtual timer expired"),
   ("PROF", some "Profiling timer expired"), ("WINCH", none), ("IO", some "I/O possible"),
   ("PWR", some "Power failure"), ("SYS", some "Bad system call"), ("32", some "Unknown signal 32"),
   ("33", some "Unknown signal 33")]

/-- The first and the last of the signals that have numbers for names. -/
def firstNumbered : Nat := 34

def lastNumbered : Nat := 64

/-- The name of a signal that is counted from the first numbered one, or from the last. -/
def numberedName (n : Nat) : String :=
  if n = firstNumbered then "RTMIN"
  else if n ≤ 49 then "RTMIN+" ++ toString (n - firstNumbered)
  else if n = lastNumbered then "RTMAX"
  else "RTMAX-" ++ toString (lastNumbered - n)

/-- The names of all signals by their numbers. -/
def names : List String :=
  table.map (·.1) ++ (List.range (lastNumbered + 1 - firstNumbered)).map fun i =>
    numberedName (firstNumbered + i)

/-- The number of a signal by its name, however its letters are written. -/
def number? (name : String) : Option Nat :=
  let name := String.ofList (name.toList.map Char.toUpper)
  names.idxOf? name

/-- The number of a signal given by its number or its name. -/
def ofText? (s : List Char) : Option Nat :=
  if !s.isEmpty && s.all Char.isDigit then
    (String.ofList s).toNat?.filter (· < names.length)
  else number? (String.ofList s)

def farewell? (n : Nat) : Option String :=
  if n < firstNumbered then (table[n]?).bind (·.2)
  else some ("Real-time signal " ++ toString (n - firstNumbered))

/-- Does the signal end nothing if it is not caught? -/
def isHarmless (n : Nat) : Bool :=
  ["EXIT", "CHLD", "CONT", "STOP", "TSTP", "TTIN", "TTOU", "URG", "WINCH"].contains
    (names.getD n "")

/-- The signal that ends a process which cannot go on. -/
def fault : Nat := 11

def arithmeticFault : Nat := 8

/-- The signal that cannot be caught. -/
def ending : Nat := 9

def term : Nat := 15

end SvgSkeleton.Shell.Signal

/-! ### The state -/

namespace SvgSkeleton.Shell

/-- What an open file is for. What is appended goes behind its end, wherever that is. -/
inductive Access where
  | reading
  | writing
  | appending
  | both
  deriving DecidableEq

def Access.reads (a : Access) : Bool := a = .reading || a = .both

def Access.writes (a : Access) : Bool := a != .reading

/-- What a channel reads from or writes to. -/
inductive Stream where
  /-- What is left to be read. -/
  | source (left : Bytes)
  /-- What has been written, the latest piece first, each with the time at which it was written. -/
  | sink (pieces : List (Nat × Bytes))
  | null
  | zeros
  | full
  /-- Bytes without end that look random, with the number that they go on behind. -/
  | noise (seed : Nat)
  | file (place : Place) (offset : Nat) (access : Access)

structure Variable where
  value : Option Bytes
  exported : Bool
  readOnly : Bool

/-- A command that was put in the background. -/
structure Job where
  number : Nat
  process : Nat
  status : Nat
  /-- The signal that has ended it. -/
  signal : Option Nat
  /-- The time at which it ends. -/
  ends : Nat
  /-- Has it been waited for? -/
  waited : Bool

structure Machine where
  tree : FileTree
  cwd : Place
  streams : Array Stream
  /-- The streams of the channels that are open. -/
  channels : List (Nat × Nat)
  definitions : List (Bytes × Variable)
  functions : List (Bytes × Command)
  /-- The texts of the here-documents that have been read. -/
  texts : List (Nat × Word)
  /-- The name that messages begin with. -/
  name : Bytes
  args : List Bytes
  status : Nat
  /-- The status of the last command whose output was substituted. -/
  substituted : Option Nat
  line : Nat
  /-- The command of the shell itself that is at work. -/
  command : Option Bytes
  /-- Which argument `getopts` reads next, and how far it has read into the one before. -/
  optionIndex : Nat
  optionOffset : Option Nat
  /-- The letters of the settings that are on. -/
  switches : List Char
  /-- The status of the command that runs is tested, so that its failure is none of the script. -/
  tested : Bool
  /-- What the variables were that the functions at work have made their own. -/
  hidden : List (List (Bytes × Option Variable))
  /-- What runs on signals, and at the end under the name `EXIT`. -/
  traps : List (Bytes × Bytes)
  /-- How many loops are at work around the command that runs. -/
  loops : Nat
  /-- The number of the process that the shell is, and how many processes there have been. -/
  process : Nat
  /-- The number of the process that runs, which is another one in a part of a shell. -/
  own : Nat
  /-- The process that those belong to that are run from here. -/
  host : Nat
  processes : Nat
  /-- The signals that processes around this one have been sent. -/
  pending : List (Nat × Nat)
  /-- The commands in the background, the latest first, and the process of the very latest. -/
  jobs : List Job
  background : Option Nat
  aliases : List (Bytes × Bytes)
  /-- The commands whose programs have been looked up. -/
  hashed : List (Bytes × Bytes)
  /-- The permissions of files and folders, where they are not the usual ones. -/
  modes : List (Place × Nat)
  /-- When files and folders were changed last, where that was not before everything else. The
  times are in milliseconds. -/
  changes : List (Place × Int)
  /-- The permissions that new files and folders do not get. -/
  mask : Nat
  /-- How many milliseconds have been waited, and when waiting ends at the latest. -/
  time : Nat
  deadline : Option Nat
  /-- How far a process stands back behind others. -/
  niceness : Int
  /-- The limits that have been set, each by its letter, and those that they cannot be raised
  beyond. -/
  limits : List (Char × Option Nat × Option Nat)
  /-- The variables that programs are given last, in this order. -/
  givenLast : List Bytes
  /-- What could not be written. -/
  unwritten : Option OsError
  /-- Has the input been wanted where it was closed? -/
  unread : Bool

/-- Why a script does not go on to its next command. -/
inductive Stop where
  | exit (status : Nat)
  /-- A failure that has been complained about; the status is 2. -/
  | failed
  | leaveFunction (status : Nat)
  | leaveLoop (depth : Nat)
  | nextRound (depth : Nat)
  /-- A signal has ended the process. -/
  | killed (signal : Nat)
  /-- There is no more time to wait. -/
  | timedOut
  deriving DecidableEq, Repr

end SvgSkeleton.Shell

/-- What a shell does: a change of its state that may be stopped. -/
abbrev SvgSkeleton.Shell := ExceptT SvgSkeleton.Shell.Stop (StateM SvgSkeleton.Shell.Machine)

namespace SvgSkeleton.Shell

/-! ### Streams -/

/-- The stream of a channel. -/
def streamOf? (channel : Nat) : Shell (Option Nat) := do
  return (← get).channels.lookup channel

def setStream (i : Nat) (s : Stream) : Shell Unit := modify fun m =>
  { m with streams := m.streams.setIfInBounds i s }

/-- A further stream. -/
def newStream (s : Stream) : Shell Nat := do
  let i := (← get).streams.size
  modify fun m => { m with streams := m.streams.push s }
  return i

/-- The list with a channel led to a stream, or closed. -/
def leadChannel (channel : Nat) (goal : Option Nat) (channels : List (Nat × Nat)) :
    List (Nat × Nat) :=
  let others := channels.filter (·.1 != channel)
  match goal with
  | some i => (channel, i) :: others
  | none => others

def lead (channel : Nat) (goal : Option Nat) : Shell Unit := modify fun m =>
  { m with channels := leadChannel channel goal m.channels }

/-- The content of a file at a place from an offset on. -/
def contentFrom (tree : FileTree) (place : Place) (offset : Nat) : Bytes :=
  match tree.contentAt place with
  | .ok b => Bytes.ofByteArray (b.extract offset b.size)
  | .error _ => []

/-- Take what a reader of a stream takes. The reader is given all that there is, and returns its
result and how much of it it has taken. -/
def takeFrom {α : Type} (channel : Nat) (read : Bytes → α × Nat) : Shell α := do
  match ← streamOf? channel with
  | none => return (read []).1
  | some i =>
    let m ← get
    match m.streams[i]? with
    | some (.source left) =>
      let (value, n) := read left
      setStream i (.source (left.drop n))
      return value
    | some (.file place offset access) =>
      let content := if access.reads then contentFrom m.tree place offset else []
      let (value, n) := read content
      setStream i (.file place (offset + n) access)
      return value
    | _ => return (read []).1

/-- Bytes of a stream without end, and the stream behind them; nothing of one that ends. -/
def Stream.endless? (s : Stream) (n : Nat) : Option (Bytes × Stream) :=
  match s with
  | .zeros | .full => some (List.replicate n '\x00', s)
  | .noise seed =>
    let (bytes, seed) := Noise.bytes n seed
    some (bytes, .noise seed)
  | _ => none

/-- How much is read at once of a stream without end, at most. -/
def endlessLimit : Nat := 1 <<< 26

/-- How much is read of a stream without end where all of it is asked for. Whoever asks goes on for
ever, unless nobody wants what follows. -/
def endlessPart : Nat := 1 <<< 18

/-- So many bytes of a stream without end; nothing of one that ends. -/
def readEndless? (i : Nat) (n : Nat) : Shell (Option Bytes) := do
  match ((← get).streams[i]?).bind fun s => s.endless? n with
  | some (bytes, s) =>
    setStream i s
    return some bytes
  | none => return none

/-- Can a channel be read from? -/
def canRead (channel : Nat) : Shell Bool := do
  match ← streamOf? channel with
  | none => return false
  | some i =>
    match (← get).streams[i]? with
    | some (.sink _) => return false
    | some (.file _ _ access) => return access.reads
    | _ => return true

/-- All that can be read. -/
def readAll (channel : Nat) : Shell Bytes := do
  let some i ← streamOf? channel | return []
  match ← readEndless? i endlessPart with
  | some bytes => return bytes
  | none => takeFrom channel fun s => (s, s.length)

/-- Some bytes, as many as are asked for if there are. -/
def readUpTo (channel : Nat) (n : Nat) : Shell Bytes := do
  let some i ← streamOf? channel | return []
  match ← readEndless? i (min n endlessLimit) with
  | some bytes => return bytes
  | none => takeFrom channel fun s => (s.take n, (s.take n).length)

/-- A line with its line feed; nothing at the end. -/
def readLine (channel : Nat) : Shell Bytes :=
  takeFrom channel fun s =>
    let body := s.takeWhile (· != '\n')
    let line := s.take (body.length + 1)
    (line, line.length)

/-- The greatest size of a file. -/
def fileLimit : Nat := 1 <<< 31

/-- The file with bytes written at an offset. -/
def overwrite (content : ByteArray) (offset : Nat) (new : ByteArray) : ByteArray :=
  content.extract 0 offset ++ Bytes.zeros (offset - content.size) ++ new
    ++ content.extract (offset + new.size) content.size

/-- Note that something could not be written. -/
def notWritten (reason : OsError) : Shell Unit := modify fun m =>
  { m with unwritten := some reason }

/-- When the files were made that were there before, and how much later it is at first. -/
def firstChange : Int := 1700000000000

def firstDelay : Int := 1000

/-- The time in milliseconds. -/
def now (m : Machine) : Int := firstChange + firstDelay + m.time

/-- When what stands at a place was changed. -/
def changedAt (m : Machine) (place : Place) : Int := (m.changes.lookup place).getD firstChange

/-- The state with a place noted as changed at a time. -/
def changedTo (place : Place) (time : Int) (m : Machine) : Machine :=
  { m with changes := (place, time) :: m.changes.filter (·.1 != place) }

/-- The state with a place noted as changed now. -/
def touched (place : Place) (m : Machine) : Machine := changedTo place (now m) m

def write (channel : Nat) (s : Bytes) : Shell Unit := do
  if s.isEmpty then return ()
  match ← streamOf? channel with
  | none => notWritten .badChannel
  | some i =>
    let m ← get
    match m.streams[i]? with
    | some (.sink pieces) => setStream i (.sink ((m.time, s) :: pieces))
    | some .full => notWritten .noSpace
    | some (.file place offset access) =>
      if !access.writes then return ← notWritten .badChannel
      let old := (m.tree.contentAt place).toOption.getD .empty
      let offset := if access = .appending then old.size else offset
      let content := overwrite old offset (Bytes.toByteArray s)
      set (touched place { m with tree := m.tree.put (.file content) place })
      setStream i (.file place (offset + s.length) access)
    | some (.source _) => notWritten .badChannel
    | _ => return ()

/-- What has been written to a sink, in the order of the times. -/
def collected (pieces : List (Nat × Bytes)) : Bytes :=
  let inTurn := pieces.reverse
  let sorted := if inTurn.all (·.1 == (inTurn.headD (0, [])).1) then inTurn
    else inTurn.mergeSort fun a b => a.1 ≤ b.1
  sorted.flatMap (·.2)

def say (s : String) : Shell Unit := write 1 (Bytes.ofText s)

def sayError (s : String) : Shell Unit := write 2 (Bytes.ofText s)

/-- A complaint of the shell itself. -/
def complain (s : Bytes) : Shell Unit := do
  let m ← get
  let command := match m.command with
    | some c => c ++ ": ".toList
    | none => []
  write 2 (m.name ++ ": ".toList ++ Bytes.ofNat m.line ++ ": ".toList ++ command ++ s ++ ['\n'])

/-- A complaint that ends the script. -/
def failWith {α : Type} (s : Bytes) : Shell α := do
  complain s
  throw .failed

/-! ### Files -/

/-- The place that a path denotes. -/
def locate (path : Bytes) : Shell (Except OsError Place) := do
  let m ← get
  return m.tree.locate m.cwd (Bytes.toList path)

/-- What stands at the end of a path. -/
def nodeAt? (path : Bytes) : Shell (Except OsError FileTree) := do
  let m ← get
  match m.tree.locate m.cwd (Bytes.toList path) with
  | .error e => return .error e
  | .ok place =>
    match m.tree.at? place with
    | some node => return .ok node
    | none => return .error .noEntry

/-- The stream that a special file is. -/
def openSpecial (kind : SpecialFile) : Shell (Except OsError Nat) := do
  match kind with
  | .null => return .ok (← newStream .null)
  | .zero => return .ok (← newStream .zeros)
  | .full => return .ok (← newStream .full)
  | .random => return .ok (← newStream (.noise (Noise.next ((← get).time + (← get).streams.size))))
  | .terminal => return .error (.other "No such device or address")
  | .stream n =>
    match ← streamOf? n with
    | some i => return .ok i
    | none => return .error .noEntry
  | .program _ | .pipe => return .ok (← newStream (.source []))

/-- Open a file to read from it. -/
def openToRead (path : Bytes) : Shell (Except OsError Nat) := do
  match ← locate path with
  | .error e => return .error e
  | .ok place =>
    match (← get).tree.at? place with
    | some (.special kind) => openSpecial kind
    | some _ => return .ok (← newStream (.file place 0 .reading))
    | none => return .error .noEntry

/-- The permissions that a file or folder has if nothing else is said. -/
def usualMode : FileTree → Nat
  | .file _ => 0o644
  | .link _ => 0o777
  | .special (.program _) | .folder _ => 0o755
  | .special _ => 0o666

/-- The permissions of what stands at a place. -/
def modeAt (m : Machine) (place : Place) : Nat :=
  (m.modes.lookup place).getD (((m.tree.at? place).map usualMode).getD 0)

def setMode (place : Place) (mode : Nat) : Shell Unit := modify fun m =>
  { m with modes := (place, mode) :: m.modes.filter (·.1 != place) }

/-- The permissions that are left of some when those are taken away that new files do not get. -/
def masked (mode mask : Nat) : Nat := mode - (mode &&& mask)

/-- Put something new at a place. -/
def createNode (node : FileTree) (place : Place) : Shell Unit := modify fun m =>
  let wanted := match node with
    | .folder _ => 0o777
    | _ => 0o666
  let mode := match node with
    | .link _ => 0o777
    | _ => masked wanted m.mask
  let others := m.modes.filter (·.1 != place)
  touched place.dropLast (touched place { m with
    tree := m.tree.put node place
    modes := if mode = usualMode node then others else (place, mode) :: others })

/-- Take away what stands at a place. -/
def eraseNode (place : Place) : Shell Unit := modify fun m =>
  touched place.dropLast { m with
    tree := m.tree.erase place
    modes := m.modes.filter fun e => !place.isPrefixOf e.1
    changes := m.changes.filter fun e => !place.isPrefixOf e.1 }

/-- Entries for places with those at a place and below moved to another one. -/
def movedPlaces {α : Type} (place goal : Place) (entries : List (Place × α)) :
    List (Place × α) :=
  let kept := entries.filter fun e => place == goal || !goal.isPrefixOf e.1
  kept.map fun e =>
    if place.isPrefixOf e.1 then (goal ++ e.1.drop place.length, e.2) else e

/-- Move what stands at a place to another one. -/
def moveNode (place goal : Place) : Shell Unit := do
  match (← get).tree.at? place with
  | none => return ()
  | some node =>
    modify fun m =>
      let moved := { m with
        tree := (m.tree.erase place).put node goal
        modes := movedPlaces place goal m.modes
        changes := movedPlaces place goal m.changes }
      touched place.dropLast (touched goal.dropLast moved)

/-- Open a file to write to it. What it held is gone unless it is kept. -/
def openFor (access : Access) (keep : Bool) (path : Bytes) : Shell (Except OsError Nat) := do
  let m ← get
  match m.tree.locateTarget m.cwd (Bytes.toList path) with
  | .error e => return .error e
  | .ok place =>
    match m.tree.at? place with
    | some (.special (.program _)) => return .error (.other "Text file busy")
    | some (.special kind) => openSpecial kind
    | node =>
      if node.isNone then createNode (.file .empty) place
      else if !keep then set (touched place { m with tree := m.tree.put (.file .empty) place })
      return .ok (← newStream (.file place 0 access))

/-- Open a file to write to it, from its beginning or behind its end. What it held is gone unless
it is kept. -/
def openToWrite (path : Bytes) (append keep : Bool) : Shell (Except OsError Nat) :=
  openFor (if append then .appending else .writing) keep path

/-- All that a file holds. -/
def readFile (path : Bytes) : Shell (Except OsError Bytes) := do
  match ← nodeAt? path with
  | .error e => return .error e
  | .ok (.folder _) => return .error .isFolder
  | .ok (.special (.stream n)) => return .ok (← readAll n)
  | .ok (.special kind) =>
    match ← openSpecial kind with
    | .error e => return .error e
    | .ok i => return .ok ((← readEndless? i endlessPart).getD [])
  | .ok (.file content) => return .ok (Bytes.ofByteArray content)
  | .ok _ => return .ok []

/-- The absolute path of the folder that the shell is in. -/
def workingFolder : Shell Bytes := do
  return Bytes.ofList (FileTree.absolutePath (← get).cwd)

/-! ### Variables -/

def definition? (name : Bytes) : Shell (Option Variable) := do
  return (← get).definitions.lookup name

def valueOf? (name : Bytes) : Shell (Option Bytes) := do
  return (← definition? name).bind (·.value)

/-- The list with an entry put under a name. -/
def putEntry {α : Type} (name : Bytes) (value : α) (entries : List (Bytes × α)) :
    List (Bytes × α) :=
  (name, value) :: entries.filter (·.1 != name)

def setVariable (name : Bytes) (v : Variable) : Shell Unit := modify fun m =>
  { m with definitions := putEntry name v m.definitions }

/-- Is a setting of the shell on? -/
def isOn (letter : Char) : Shell Bool := return (← get).switches.contains letter

/-- Give a variable a value. A variable that may only be read ends the script. -/
def assign (name value : Bytes) : Shell Unit := do
  let exports ← isOn 'a'
  match ← definition? name with
  | some ⟨_, exported, false⟩ => setVariable name ⟨some value, exported || exports, false⟩
  | some ⟨_, _, true⟩ => failWith (name ++ ": is read only".toList)
  | none => setVariable name ⟨some value, exports, false⟩
  if name = "PATH".toList then modify fun m => { m with hashed := [] }
  else if name = "OPTIND".toList then
    modify fun m =>
      { m with optionIndex := max 1 ((Bytes.toNat? value).getD 1), optionOffset := none }

def unsetVariable (name : Bytes) : Shell Unit := modify fun m =>
  { m with definitions := m.definitions.filter (·.1 != name) }

/-- In how many rows a shell keeps its variables. -/
def variableRows : Nat := 39

/-- The row of a variable. -/
def rowOf (name : Bytes) : Nat :=
  let sum := name.foldl (fun n c => n + c.toNat) 0
  (sum + 16 * (name.headD '\x00').toNat) % variableRows

/-- The variables that programs are given: first those of the shell, row by row and in each the
oldest first, then those that have been given by a program. -/
def environment : Shell (List (Bytes × Bytes)) := do
  let m ← get
  let entries := m.definitions.reverse.filterMap fun e =>
    if e.2.exported then e.2.value.map (e.1, ·) else none
  let own := entries.filter fun e => !m.givenLast.contains e.1
  let sorted := own.mergeSort fun a b => rowOf a.1 ≤ rowOf b.1
  return sorted ++ m.givenLast.filterMap fun name => (entries.lookup name).map (name, ·)

/-! ### Control -/

/-- Set the status. -/
def setStatus (n : Nat) : Shell Unit := modify fun m => { m with status := n }

/-- Do something with the settings of channels put back afterwards, however it ends. -/
def keepingChannels {α : Type} (act : Shell α) : Shell α := fun m =>
  match act m with
  | (r, m') => (r, { m' with channels := m.channels })

/-- Say that a signal has ended a process. -/
def tellDeath (signal : Nat) : Shell Unit :=
  match Signal.farewell? signal with
  | some text => sayError (text ++ "\n")
  | none => return ()

/-- The state after a process: of its changes only those to files and streams stay. -/
def Machine.afterProcess (m m' : Machine) : Machine :=
  { m with tree := m'.tree, streams := m'.streams, modes := m'.modes, changes := m'.changes
           processes := m'.processes
           pending := m'.pending, time := m'.time, unwritten := m'.unwritten, unread := m'.unread }

/-- Do something as a process. What ends it ends nothing else, except that there may be no more
time. The results are its status, and the signal that has ended it. -/
def inProcess (act : Shell Nat) : Shell (Nat × Option Nat) := fun m =>
  let (r, m') := act m
  let m := m.afterProcess m'
  match r with
  | .ok n | .error (.exit n) | .error (.leaveFunction n) => (.ok (n % 256, none), m)
  | .error .failed => (.ok (2, none), m)
  | .error (.killed n) => (.ok (128 + n, some n), m)
  | .error .timedOut => (.error .timedOut, m)
  | .error _ => (.ok (m'.status, none), m)

/-- Do something as a shell of its own within a shell. If all that it does is to run a program,
the program takes its place. -/
def apart (replaced : Bool) (act : Shell Unit) : Shell (Nat × Option Nat) := inProcess do
  modify fun m =>
    let own := m.processes + 1
    { m with traps := m.traps.filter (·.2.isEmpty), jobs := [], own := own, processes := own
             host := if replaced then m.own else own }
  act
  return (← get).status

/-- Do something as a shell of its own, and tell of the signal that has ended it. -/
def isolated (replaced : Bool) (act : Shell Unit) : Shell Unit := do
  let (status, signal) ← apart replaced act
  if let some n := signal then tellDeath n
  setStatus status

/-- Do something whose status is tested. -/
def testing (act : Shell Unit) : Shell Unit := fun m =>
  match act { m with tested := true } with
  | (r, m') => (r, { m' with tested := m.tested })

end SvgSkeleton.Shell
