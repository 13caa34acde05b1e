import SvgSkeleton.Shell.Utility.Awk.Pattern
import SvgSkeleton.Shell.Utility.Awk.Syntax
import SvgSkeleton.Shell.Utility.Awk.Table
import SvgSkeleton.Shell.Utility.Awk.Token
import SvgSkeleton.Shell.Utility.Options

/-!
The state of a program at work: its variables and tables, the record at hand with its fields, and
what is read and written. What is written to the output is kept until other programs may write, too.
Before it stands how a text is divided: a record into fields, and an input into records.
-/

namespace SvgSkeleton.Shell.Awk

/-- What stands between the pieces of a text. -/
inductive Separator where
  /-- Blanks, as many as there are; those at the ends belong to no piece. -/
  | blanks
  /-- Nothing: each character is a piece. -/
  | nothing
  | char (c : Char)
  | pattern (m : Matcher)

namespace Separator

/-- What a text means as a separator. -/
def ofText (s : Bytes) : Except PatternFault Separator :=
  match s with
  | [] => .ok .nothing
  | [' '] => .ok .blanks
  | [c] => .ok (.char c)
  | s => (matcher? s).map .pattern

/-- The first match from a position on that is not empty. -/
def search? (m : Matcher) : Nat → Regex.Position → Option Match
  | 0, _ => none
  | fuel + 1, p =>
    match m.search? p with
    | none => none
    | some found =>
      if !found.isEmpty then some found
      else if found.first.rest.isEmpty then none
      else search? m fuel found.first.cleared.next

/-- The pieces of a text from a position on, between matches. -/
def piecesFrom (m : Matcher) : Nat → Regex.Position → List Bytes
  | 0, p => [p.rest]
  | fuel + 1, p =>
    match search? m (p.rest.length + 1) p with
    | none => [p.rest]
    | some found =>
      p.rest.take (found.first.index - p.index) :: piecesFrom m fuel found.last.cleared

/-- The pieces between blanks. -/
def words : Nat → Bytes → List Bytes
  | 0, _ => []
  | fuel + 1, s =>
    let s := s.dropWhile isSpaceByte
    if s.isEmpty then []
    else s.takeWhile (!isSpaceByte ·) :: words fuel (s.dropWhile (!isSpaceByte ·))

/-- The pieces of a text. An empty text has none. -/
def split (sep : Separator) (s : Bytes) : List Bytes :=
  if s.isEmpty then []
  else
    match sep with
    | .blanks => words (s.length + 1) s
    | .nothing => s.map ([·])
    | .char c => Bytes.splitAt c s
    | .pattern m => piecesFrom m (s.length + 1) (.start s)

end Separator

/-! ### Records -/

/-- The record at the front of a text that empty lines divide, and what follows. -/
def paragraph : Bytes → Bytes × Bytes
  | [] | ['\n'] => ([], [])
  | '\n' :: '\n' :: r => ([], r.dropWhile (· == '\n'))
  | c :: r =>
    let (a, b) := paragraph r
    (c :: a, b)

/-- The record at the front of an input, and what follows; nothing at its end. -/
def record? (separator : Bytes) (s : Bytes) : Except PatternFault (Option (Bytes × Bytes)) :=
  match separator with
  | [] =>
    let s := s.dropWhile (· == '\n')
    .ok (if s.isEmpty then none else some (paragraph s))
  | [c] =>
    if s.isEmpty then .ok none
    else
      let body := s.takeWhile (· != c)
      .ok (some (body, s.drop (body.length + 1)))
  | separator =>
    if s.isEmpty then .ok none
    else
      (matcher? separator).map fun m =>
        match Separator.search? m (s.length + 1) (.start s) with
        | none => some (s, [])
        | some found => some (s.take found.first.index, found.last.rest)

/-- Something that lines are read from besides the main input. -/
structure Source where
  path : Bytes
  isCommand : Bool
  left : Bytes
  /-- The status of the command. -/
  status : Nat

/-- Something that is written to. -/
structure Goal where
  path : Bytes
  way : Way
  /-- The stream of a file. -/
  stream : Nat
  /-- What has been written and not been handed on, the latest first. -/
  pieces : List Bytes

/-- The arguments of the function at work. -/
structure Frame where
  kinds : Array Kind
  values : Array Value
  /-- The numbers of the tables among the arguments. -/
  tables : Array Nat

structure State where
  values : Array Value
  /-- The tables of all variables, and then those of functions at work. -/
  tables : Array Table
  frame : Frame
  /-- How many values wait for others. -/
  height : Nat
  record : Value
  /-- The fields of the record, once it has been divided. -/
  fields : Option (Array Value)
  /-- Which rules for a range of records are within theirs. -/
  within : Array Bool
  /-- What is left of the main input at hand. -/
  input : Option Bytes
  /-- Which argument comes next, and whether there has been one that is a file. -/
  position : Nat
  hasFile : Bool
  sources : List Source
  goals : List Goal
  /-- What has been written to the output, the latest first. -/
  out : List Bytes
  seed : Value
  random : Nat
  status : Nat

/-- Why a statement is not followed by the next one. -/
inductive Halt where
  /-- The program is over. -/
  | exit
  /-- The program fails, with a message. -/
  | fatal (message : Bytes)
  | next
  | nextFile
  | leave
  | again
  | answer (value : Value)

/-- What does not change while a program is at work. -/
structure Setting where
  name : Bytes
  call : Caller
  program : Program

/-- What a program does. -/
abbrev Run := ReaderT Setting (ExceptT Halt (StateT State Shell))

def machine : Run Machine := fun _ s => do return (.ok (← get), s)

def inShell {α : Type} (act : Shell α) : Run α := fun _ s => do
  let a ← act
  return (.ok a, s)

def fatal {α : Type} (s : Bytes) : Run α := throw (.fatal s)

/-! ### Variables that are always there -/

namespace Known

def fieldCount : Nat := 0
def recordCount : Nat := 1
def fileRecordCount : Nat := 2
def fieldSeparator : Nat := 3
def outputSeparator : Nat := 4
def outputEnd : Nat := 5
def recordSeparator : Nat := 6
def fileName : Nat := 7
def matchStart : Nat := 8
def matchLength : Nat := 9
def keySeparator : Nat := 10
def format : Nat := 11
def outputFormat : Nat := 12
def argumentCount : Nat := 13
def arguments : Nat := 14
def environment : Nat := 15

end Known

def value (n : Nat) : Run Value := return (← get).values.getD n .none

def setValue (n : Nat) (v : Value) : Run Unit := modify fun s =>
  { s with values := s.values.setIfInBounds n v }

/-- A value as a text. -/
def toText (v : Value) : Run Bytes := do
  match v with
  | .none => return []
  | .text s | .given s => return s
  | .number x =>
    match wholeText? x with
    | some s => return s
    | none => return textIn (textIn [] (← value Known.format)) v

/-- A value as it is written. -/
def toOutput (v : Value) : Run Bytes := do
  match v with
  | .number _ => return textIn (textIn [] (← value Known.outputFormat)) v
  | v => toText v

/-- The text of a variable. -/
def textOf (n : Nat) : Run Bytes := do toText (← value n)

/-- A fault of the program at work. -/
def runtimeFault {α : Type} (s : Bytes) : Run α := do
  let file ← textOf Known.fileName
  let inFile ← textOf Known.fileRecordCount
  let inAll ← textOf Known.recordCount
  fatal ("run time error: ".toList ++ s ++ "\n\tFILENAME=\"".toList ++ file ++ "\" FNR=".toList
    ++ inFile ++ " NR=".toList ++ inAll)

/-- Let an expression that cannot be read be a fault. -/
def readable {α : Type} (text : Bytes) : Except PatternFault α → Run α
  | .ok a => return a
  | .error f => runtimeFault ("regular expression compile failed (".toList ++ f.message.toList
      ++ ")\n".toList ++ text)

/-! ### Fields -/

/-- The fields that a record has. -/
def fieldsOf (record : Value) : Run (Array Value) := do
  let s ← toText record
  let text ← textOf Known.fieldSeparator
  let separator ← readable text (Separator.ofText text)
  return ((separator.split s).map Value.given).toArray

/-- The fields of the record at hand. -/
def fields : Run (Array Value) := do
  let s ← get
  match s.fields with
  | some fs => return fs
  | none =>
    let fs ← fieldsOf s.record
    modify fun s => { s with
      fields := some fs
      values := s.values.setIfInBounds Known.fieldCount (ofNat fs.size) }
    return fs

def setRecord (v : Value) : Run Unit := modify fun s => { s with record := v, fields := none }

/-- Make the record of its fields. -/
def joinFields (fs : Array Value) : Run Unit := do
  let record ← match fs.toList with
    | [] => pure (Value.text [])
    | [v] => pure v
    | vs => do
      let separator ← textOf Known.outputSeparator
      pure (.text (Bytes.join separator (← vs.mapM toText)))
  modify fun s => { s with record := record, fields := some fs }

/-- Some fields, and empty ones behind them up to a number. -/
def filledUp (n : Nat) (fs : Array Value) : Array Value :=
  fs ++ Array.replicate (n - fs.size) (Value.text [])

def fieldAt (n : Nat) : Run Value := do
  if n = 0 then return (← get).record
  else return (← fields).getD (n - 1) (.given [])

def setField (n : Nat) (v : Value) : Run Unit := do
  if n = 0 then setRecord v
  else
    let fs := filledUp n (← fields)
    setValue Known.fieldCount (ofNat fs.size)
    joinFields (fs.setIfInBounds (n - 1) v)

/-- The most fields that a record may have. -/
def fieldLimit : Int := 1000000

/-- Give the number of fields another value. -/
def setFieldCount (v : Value) : Run Unit := do
  let fs ← fields
  let n := wordOf v.toNumber
  if n < 0 then runtimeFault "negative value assigned to NF".toList
  setValue Known.fieldCount v
  let n := (min n fieldLimit).toNat
  joinFields ((filledUp n fs).take n)

/-! ### Variables -/

def getName (v : Name) : Run Value := do
  match v with
  | .own n => return (← get).frame.values.getD n .none
  | .shared n =>
    if n = Known.fieldCount then discard fields
    value n

def setName (name : Name) (v : Value) : Run Unit := do
  match name with
  | .own n => modify fun s => { s with
      frame := { s.frame with values := s.frame.values.setIfInBounds n v } }
  | .shared n =>
    if n = Known.fieldCount then setFieldCount v
    else
      if n = Known.fieldSeparator then discard fields
      setValue n v

def kindOfName (v : Name) : Run Kind := do
  match v with
  | .own n => return (← get).frame.kinds.getD n .unknown
  | .shared n => return (← read).program.kinds.getD n .unknown

/-- The number of the table that a name means. -/
def tableOf (v : Name) : Run Nat := do
  match v with
  | .own n => return (← get).frame.tables.getD n 0
  | .shared n => return n

def tableAt (n : Nat) : Run Table := return (← get).tables.getD n .empty

def setTable (n : Nat) (t : Table) : Run Unit := modify fun s =>
  { s with tables := s.tables.setIfInBounds n t }

/-- Do something to a table. -/
def changeTable {α : Type} (n : Nat) (f : Table → α × Table) : Run α := do
  let t ← tableAt n
  setTable n .empty
  let (a, t) := f t
  setTable n t
  return a

/-- The key that a value is. -/
def keyOf (v : Value) : Run Key := do
  match v with
  | .number (.finite negative num den) =>
    let n := Floating.signed negative (num / den)
    if num % den = 0 && -signedLimit ≤ n && n < signedLimit then return .number n
    else return .text (← toText v)
  | v => return .text (← toText v)

/-- The key that values make together. -/
def keyOfAll (vs : List Value) : Run Key := do
  match vs with
  | [v] => keyOf v
  | vs => return .text (Bytes.join (← textOf Known.keySeparator) (← vs.mapM toText))

/-! ### Other programs -/

/-- The quoted name of something that cannot be opened. -/
def cannotOpen (path : Bytes) (rest : Bytes) : Bytes :=
  "cannot open \"".toList ++ path ++ ['"'] ++ rest

def inParentheses (e : OsError) : Bytes := " (".toList ++ reasonText e ++ [')']

/-- Write to a stream. -/
def writeTo (stream : Nat) (s : Bytes) : Shell Unit := do
  let spare := 1000
  lead spare (some stream)
  write spare s
  lead spare none

/-- Hand on what has been written to files and to the output. -/
def flush : Run Unit := do
  let s ← get
  for g in s.goals do
    if g.way != .command && !g.pieces.isEmpty then
      inShell (writeTo g.stream g.pieces.reverse.flatten)
  inShell (write 1 s.out.reverse.flatten)
  modify fun s => { s with
    out := []
    goals := s.goals.map fun g => if g.way = .command then g else { g with pieces := [] } }

/-- The status of a command that a signal may have ended. -/
def statusOf (result : Nat × Option Nat) : Nat :=
  match result with
  | (_, some signal) => 256 + signal
  | (status, none) => status

/-- Let a shell carry out a command. -/
def carryOut (shell : String) (command : Bytes) (prepare : Shell Unit) : Run Nat := do
  let call := (← read).call
  inShell do
    let result ← keepingChannels do
      prepare
      inProcess (call shell.toList ["-c".toList, command])
    return statusOf result

/-- What a command writes, and its status. -/
def outputOf (command : Bytes) : Run (Bytes × Nat) := do
  flush
  let sink ← inShell (newStream (.sink []))
  let status ← carryOut "/bin/sh" command (lead 1 (some sink))
  let out := match (← machine).streams[sink]? with
    | some (.sink pieces) => collected pieces
    | _ => []
  inShell (setStream sink .null)
  return (out, status)

/-! ### Writing -/

/-- The goal of a path, made the first one; it is opened if it is new. -/
def openGoal (way : Way) (path : Bytes) : Run Unit := do
  let s ← get
  let isThis (g : Goal) : Bool := (g.way == .command) == (way == .command) && g.path == path
  match s.goals.find? isThis with
  | some g => set { s with goals := g :: s.goals.filter (!isThis ·) }
  | none =>
    if way = .command then
      flush
      modify fun s => { s with goals := ⟨path, way, 0, []⟩ :: s.goals }
    else
      match ← inShell (openToWrite path (way == .behind) (way == .behind)) with
      | .error e => fatal (cannotOpen path " for output".toList ++ inParentheses e)
      | .ok stream => modify fun s => { s with goals := ⟨path, way, stream, []⟩ :: s.goals }

/-- Write somewhere, or to the output. -/
def emit (goal : Option (Way × Bytes)) (s : Bytes) : Run Unit := do
  match goal with
  | none => modify fun st => { st with out := s :: st.out }
  | some (way, path) =>
    if way != .command && path = "/dev/stdout".toList then
      modify fun st => { st with out := s :: st.out }
    else if way != .command && path = "/dev/stderr".toList then inShell (write 2 s)
    else
      openGoal way path
      modify fun st => { st with goals := match st.goals with
        | g :: rest => { g with pieces := s :: g.pieces } :: rest
        | [] => [] }

/-- Hand on what a goal still holds; the status of a command. -/
def finish (g : Goal) : Run Nat := do
  let s := g.pieces.reverse.flatten
  if g.way = .command then
    let source ← inShell (newStream (.source s))
    let status ← carryOut "/bin/sh" g.path (lead 0 (some source))
    inShell (setStream source .null)
    return status
  else
    inShell (writeTo g.stream s)
    return 0

/-- Close all that goes by a name; nothing if there is none. -/
def closeAll (path : Bytes) : Run (Option Nat) := do
  let s ← get
  let mine := s.goals.filter (·.path == path)
  let sources := s.sources.filter (·.path == path)
  set { s with
    goals := s.goals.filter (·.path != path)
    sources := s.sources.filter (·.path != path) }
  let statuses ← mine.mapM finish
  return ((sources.map (·.status)).getLast?.or statuses.getLast?).or
    (if path = "/dev/stdout".toList then some 0 else none)

/-- Close everything at the end. -/
def closeDown : Run Unit := do
  let s ← get
  set { s with goals := [] }
  let (commands, files) := s.goals.partition (·.way == .command)
  for g in files ++ commands do
    let _ ← finish g
  flush

/-! ### Reading -/

/-- What a file holds. -/
def contentOf (path : Bytes) : Shell (Except OsError Bytes) := do
  if path = ['-'] || path = "/dev/stdin".toList then readInput else readFile path

/-- How it is complained of what cannot be read. -/
def unreadable (path : Bytes) (e : OsError) : Bytes :=
  if failsLate e then "read error".toList ++ inParentheses e
  else cannotOpen path (inParentheses e)

/-- The next record of a text, and what follows. -/
def nextOf (s : Bytes) : Run (Option (Bytes × Bytes)) := do
  let separator ← textOf Known.recordSeparator
  readable separator (record? separator s)

/-- The source of a path, which is opened if it is new; nothing if it cannot be. -/
def openSource (isCommand : Bool) (path : Bytes) : Run (Option Source) := do
  match (← get).sources.find? fun s => s.isCommand == isCommand && s.path == path with
  | some s => return some s
  | none =>
    if isCommand then
      let (out, status) ← outputOf path
      return some ⟨path, true, out, status⟩
    else
      match ← inShell (contentOf path) with
      | .ok content => return some ⟨path, false, content, 0⟩
      | .error e => if failsLate e then fatal (unreadable path e) else return none

/-- A line of a source: whether there is one, and the line. -/
def lineFrom (isCommand : Bool) (path : Bytes) : Run (Int × Bytes) := do
  match ← openSource isCommand path with
  | none => return (-1, [])
  | some source =>
    let put (left : Bytes) : Run Unit := modify fun s => { s with
      sources := { source with left := left } ::
        s.sources.filter fun t => !(t.isCommand == isCommand && t.path == path) }
    match ← nextOf source.left with
    | none =>
      put []
      return (0, [])
    | some (line, left) =>
      put left
      return (1, line)

/-- Is an argument an assignment? -/
def isAssignment (s : Bytes) : Bool := s.contains '=' && isName (s.takeWhile (· != '='))

/-- Give the variable of a name a value from outside. -/
def assignOutside (s : Bytes) : Run Unit := do
  let name := s.takeWhile (· != '=')
  let content := Token.unescaped (s.length + 1) (s.drop (name.length + 1))
  match (← read).program.names.idxOf? name with
  | some i => setName (.shared i) (.given content)
  | none => return ()

/-- Begin with a file as the main input. -/
def beginWith (path : Bytes) : Run Unit := do
  setValue Known.fileName (.given path)
  setValue Known.fileRecordCount (ofNat 0)
  match ← inShell (contentOf path) with
  | .error e => fatal (unreadable path e)
  | .ok content => modify fun s => { s with input := some content, hasFile := true }

/-- Go on to the next file among the arguments; is there one? -/
def nextInput : Nat → Run Bool
  | 0 => return false
  | fuel + 1 => do
    let s ← get
    let count := wordOf (s.values.getD Known.argumentCount .none).toNumber
    if count ≤ s.position then
      if s.hasFile then return false
      beginWith ['-']
      return true
    else
      let key := Key.number s.position
      set { s with position := s.position + 1 }
      let there ← changeTable Known.arguments (·.has key)
      if !there then nextInput fuel
      else
        let argument ← toText (← changeTable Known.arguments (·.get key))
        if argument.isEmpty then nextInput fuel
        else if isAssignment argument then
          assignOutside argument
          nextInput fuel
        else
          beginWith argument
          return true

/-- How many arguments may be passed over. -/
def argumentLimit : Nat := 100000

/-- The next line of the main input; nothing at its end. -/
def mainLine : Nat → Run (Option Bytes)
  | 0 => return none
  | fuel + 1 => do
    match (← get).input with
    | none => if ← nextInput argumentLimit then mainLine fuel else return none
    | some left =>
      match ← nextOf left with
      | none =>
        modify fun s => { s with input := none }
        mainLine fuel
      | some (line, left) =>
        modify fun s => { s with input := some left }
        let one := Floating.ofInt 1
        for n in [Known.recordCount, Known.fileRecordCount] do
          setValue n (.number (Floating.add form (← value n).toNumber one))
        return some line

end SvgSkeleton.Shell.Awk
