import SvgSkeleton.Shell.Utility.Options
import SvgSkeleton.Shell.Utility.Sed.Script

/-!
Running a script of `sed`: it is run on each line of some files, and the line is written at its end.
-/

namespace SvgSkeleton.Shell.Sed

/-- A file that is read: its name and its lines. -/
structure Input where
  name : Bytes
  lines : List Bytes

/-- A range that is entered, and the line that ends it if that is known. -/
structure Entered where
  place : Nat
  untilLine : Option Nat

structure State where
  /-- The line at hand, and the text put aside. -/
  space : Bytes
  held : Bytes
  line : Nat
  /-- The file that is read, the lines of it that are left, and the files that follow. -/
  file : Bytes
  left : List Bytes
  later : List Input
  /-- Do the line at hand and the text put aside end in the end of a line? -/
  ended : Bool
  heldEnded : Bool
  /-- What is written, the latest piece first. -/
  out : List Bytes
  /-- Is the end of a line due before anything else is written? -/
  owed : Bool
  /-- What is written when the line at hand is done, the latest first: a text, or what a file
  holds. -/
  queue : List (Shell Bytes)
  /-- What is left of the files that are read line by line. -/
  partly : List (Bytes × List Bytes)
  entered : List Entered
  lastRegex : Option Matcher
  substituted : Bool
  quiet : Bool
  /-- Is every file on its own? -/
  apart : Bool
  /-- The character that ends lines. -/
  ending : Char
  /-- How wide the lines are in which `l` shows a line. -/
  width : Nat
  status : Nat

/-- What comes after a command. -/
inductive Next where
  | go (place : Nat)
  /-- The line at hand is done; it is written unless it was deleted. -/
  | done (prints : Bool)
  /-- Begin again without reading a line. -/
  | again
  | quit (prints : Bool)
  | failed (reason : String)

namespace State

/-- Write a text, behind the end of a line that is due. -/
def emit (s : State) (text : Bytes) : State :=
  { s with out := (if s.owed then s.ending :: text else text) :: s.out, owed := false }

/-- Write a text as a line. A line that was read without its end gets one only if more is
written. -/
def emitLine (s : State) (text : Bytes) : State :=
  if s.ended then s.emit (text ++ [s.ending]) else { s.emit text with owed := true }

/-- Is there no line behind the one at hand? -/
def isLast (s : State) : Bool :=
  s.left.isEmpty && (s.apart || s.later.all (·.lines.isEmpty))

/-- Does an address mean the line at hand? Without an expression there must have been one before. -/
def addressed (s : State) (a : Address) : Except String (Bool × State) :=
  match a with
  | .line n => .ok (s.line == n, s)
  | .last => .ok (s.isLast, s)
  | .every first step =>
    .ok (if step = 0 then s.line == first else s.line ≥ first && (s.line - first) % step == 0, s)
  | .regex m =>
    match m.or s.lastRegex with
    | none => .error "no previous regular expression"
    | some m => .ok (m.isMatch s.space, { s with lastRegex := some m })

def leave (s : State) (place : Nat) : State :=
  { s with entered := s.entered.filter (·.place != place) }

/-- Does the line at hand begin a range at a place? -/
def enter (s : State) (place : Nat) (a : Address) (final : RangeEnd) :
    Except String (Bool × State) := do
  let fromStart := match a with
    | .line 0 => s.line == 1
    | _ => false
  let (begins, s) ← if fromStart then .ok (true, s) else s.addressed a
  if !begins then return (false, s)
  let within (n : Option Nat) : Bool × State :=
    (true, { s with entered := ⟨place, n⟩ :: s.entered })
  match final with
  | .after n => return if n = 0 then (true, s) else within (some (s.line + n))
  | .multiple n =>
    let goal := if n = 0 then s.line else (s.line + n - 1) / n * n
    return if goal = s.line then (true, s) else within (some goal)
  | .at (.line n) => return if n ≤ s.line then (true, s) else within (some n)
  | .at address =>
    if fromStart then
      let (ends, s') ← s.addressed address
      return if ends then (true, s') else within none
    else return within none

/-- Is the line at hand meant by the command at a place? -/
def meant (s : State) (place : Nat) (x : Instruction) : Except String (Bool × State) :=
  match x.first, x.last with
  | none, _ => .ok (true, s)
  | some a, none => s.addressed a
  | some a, some final =>
    match s.entered.find? (·.place == place) with
    | some e =>
      match e.untilLine, final with
      | some n, _ =>
        if s.line = n then .ok (true, s.leave place)
        else if s.line > n then (s.leave place).enter place a final
        else .ok (true, s)
      | none, .at address => do
        let (ends, s) ← s.addressed address
        return (true, if ends then s.leave place else s)
      | none, _ => .ok (true, s)
    | none => s.enter place a final

end State

/-- What runs a part of a script: it changes the state, and the machine's. -/
abbrev Editing := StateT State Shell

/-- Write what has been written so far to the output. -/
def passOn : Editing Unit := do
  let s ← get
  write 1 s.out.reverse.flatten
  set { s with out := [] }

/-- Write what is due behind the line at hand. -/
def flush : Editing Unit := do
  let queue := (← get).queue
  modify fun s => { s with queue := [] }
  queue.reverse.forM fun text => do
    let text : Bytes ← (text : Shell Bytes)
    unless text.isEmpty do modify fun s => s.emit text

/-- The next line in place of the one at hand; is there one? -/
def nextLine : Editing Bool := do
  let s ← get
  let take (s : State) (l : Bytes) (ls : List Bytes) : State :=
    let ended := l.getLast? == some s.ending
    { s with space := if ended then l.dropLast else l, ended := ended, left := ls
             line := s.line + 1 }
  match s.left with
  | l :: ls =>
    set (take s l ls)
    return true
  | [] =>
    if s.apart then return false
    match s.later.dropWhile (·.lines.isEmpty) with
    | [] => return false
    | ⟨name, lines⟩ :: later =>
      match lines with
      | l :: ls =>
        set (take { s with file := name, later := later } l ls)
        return true
      | [] => return false

/-! ### Substitution -/

/-- Put together a replacement. The state is the change of case in force: for all that follows, and
for the next character. -/
def replacement (m : Match) : Option Char → Option Char → List Piece → Bytes
  | _, _, [] => []
  | lasting, once, p :: ps =>
    let change (letter : Option Char) (c : Char) : Char :=
      match letter with
      | some 'U' | some 'u' => c.toUpper
      | some 'L' | some 'l' => c.toLower
      | _ => c
    match p with
    | .case 'E' => replacement m none none ps
    | .case c =>
      if c = 'U' || c = 'L' then replacement m (some c) none ps
      else replacement m lasting (some c) ps
    | p =>
      let text := match p with
        | .text t => t
        | .group n => (m.group? n).getD []
        | .case _ => []
      let text := text.map (change lasting)
      match text, once with
      | c :: r, some _ => change once c :: r ++ replacement m lasting none ps
      | text, once => text ++ replacement m lasting once ps

/-- The text with matches replaced, and whether there was one. -/
def substituted (s : Substitution) (m : Matcher) (text : Bytes) : Bytes × Bool :=
  let first := s.nth.getD 1 - 1
  let found := (m.findAll text).drop first
  let found := if s.all then found else found.take 1
  let (done, pieces) := found.foldl (fun (done, pieces) (f : Match) =>
    (f.last.index, replacement f none none s.replacement
      :: (text.drop done).take (f.first.index - done) :: pieces)) (0, [])
  ((text.drop done :: pieces).reverse.flatten, !found.isEmpty)

/-! ### Commands -/

/-- A character in the form of `l`. -/
def unambiguous (c : Char) : Bytes :=
  match c with
  | '\\' => ['\\', '\\']
  | '\x07' => ['\\', 'a']
  | '\x08' => ['\\', 'b']
  | '\x0c' => ['\\', 'f']
  | '\n' => ['\\', 'n']
  | '\r' => ['\\', 'r']
  | '\t' => ['\\', 't']
  | '\x0b' => ['\\', 'v']
  | c =>
    if 0x20 ≤ c.toNat && c.toNat < 0x7F then [c]
    else
      let ds := Nat.toDigits 8 c.toNat
      '\\' :: List.replicate (3 - ds.length) '0' ++ ds

/-- The line at hand in lines of a width that end in backslashes. -/
def listed (width : Nat) (s : Bytes) : Bytes :=
  (s.foldl (fun (column, out) c =>
    let text := unambiguous c
    if width > 0 && column + text.length > width - 1 then
      (text.length, text.reverse ++ '\n' :: '\\' :: out)
    else (column + text.length, text.reverse ++ out)) (0, ([] : Bytes))).2.reverse ++ ['$', '\n']

/-- The place of a label; without a name it is the end. -/
def labelPlace (program : Array Instruction) (name : Bytes) : Nat :=
  if name.isEmpty then program.size
  else
    (program.findIdx? fun x =>
      match x.action with
      | .label n => n == name
      | _ => false).getD program.size

/-- Write a text to a file of the script. -/
def writeTo (path text : Bytes) (ended : Bool) : Editing Unit := do
  let s ← get
  let text := if ended then text ++ [s.ending] else text
  match String.ofList path with
  | "/dev/stdout" => set { s with out := text :: s.out }
  | "/dev/stderr" => (write 2 text : Shell Unit)
  | _ =>
    let _ ← (putFile path true text : Shell _)

/-- The next line of a file that is read line by line. -/
def lineFrom (path : Bytes) : Editing (Option Bytes) := do
  let s ← get
  let lines ← match s.partly.lookup path with
    | some lines => pure lines
    | none => do
      let content : Except OsError Bytes ← (readOperand
        (if path = "/dev/stdin".toList then ['-'] else path) : Shell _)
      pure (piecesAt s.ending (content.toOption.getD []))
  modify fun s => { s with partly := putEntry path lines.tail s.partly }
  return lines.head?

/-- Run a command of the shell. -/
def outputOfCommand (call : Caller) (command : Bytes) : Editing Bytes := do
  passOn
  let (out, _) ← (outputOn [] (call "sh".toList ["-c".toList, command]) : Shell _)
  return out

/-- The command with a letter. -/
def perform (place : Nat) (letter : Char) : Editing Next := do
  let s ← get
  match letter with
  | 'd' => return .done false
  | 'D' =>
    if s.space.contains '\n' then
      set { s with space := (s.space.dropWhile (· != '\n')).drop 1 }
      return .again
    else return .done false
  | 'p' => set (s.emitLine s.space)
  | 'P' =>
    if s.space.contains '\n' then set (s.emit (s.space.takeWhile (· != '\n') ++ [s.ending]))
    else set (s.emitLine s.space)
  | 'g' => set { s with space := s.held, ended := s.heldEnded }
  | 'G' => set { s with space := s.space ++ '\n' :: s.held, ended := s.heldEnded }
  | 'h' => set { s with held := s.space, heldEnded := s.ended }
  | 'H' => set { s with held := s.held ++ '\n' :: s.space, heldEnded := s.ended }
  | 'x' =>
    set { s with
      space := s.held, ended := s.heldEnded, held := s.space, heldEnded := s.ended }
  | 'z' => set { s with space := [] }
  | '=' => set (s.emit (Bytes.ofNat s.line ++ ['\n']))
  | 'F' => set (s.emit (s.file ++ ['\n']))
  | 'n' =>
    if s.isLast then return .quit true
    unless s.quiet do modify fun s => s.emitLine s.space
    flush
    let _ ← nextLine
  | 'N' =>
    if s.isLast then return .quit true
    flush
    let before := s.space
    let _ ← nextLine
    modify fun s => { s with space := before ++ '\n' :: s.space }
  | _ => pure ()
  return .go (place + 1)

/-- The command at a place, for a line that is meant. -/
def execute (call : Caller) (program : Array Instruction) (place : Nat) (x : Instruction) :
    Editing Next := do
  let s ← get
  let on : Next := .go (place + 1)
  match x.action with
  | .block _ | .blockEnd | .nothing | .label _ => return on
  | .letter c => perform place c
  | .list width =>
    set (s.emit (listed (width.getD s.width) s.space))
    return on
  | .quit prints status =>
    set { s with status := status }
    return .quit prints
  | .append text =>
    set { s with queue := pure text :: s.queue }
    return on
  | .readFile path =>
    let read : Shell Bytes := do
      let operand := if path = "/dev/stdin".toList then ['-'] else path
      return (← readOperand operand).toOption.getD []
    set { s with queue := read :: s.queue }
    return on
  | .readLine path =>
    if let some line ← lineFrom path then
      modify fun s => { s with queue := pure (line ++ [s.ending]) :: s.queue }
    return on
  | .writeLines path =>
    writeTo path s.space s.ended
    return on
  | .writeFirst path =>
    writeTo path (s.space.takeWhile (· != '\n')) (s.ended || s.space.contains '\n')
    return on
  | .insert text =>
    set (s.emit text)
    return on
  | .change text =>
    let inRange := x.last.isSome && s.entered.any (·.place == place)
    unless inRange do set (s.emit text)
    return .done false
  | .jump 'b' name => return .go (labelPlace program name)
  | .jump letter name =>
    set { s with substituted := false }
    return if s.substituted == (letter == 't') then .go (labelPlace program name) else on
  | .translate table =>
    set { s with space := s.space.map fun c => (table.lookup c).getD c }
    return on
  | .run none =>
    let out ← outputOfCommand call s.space
    modify fun s => { s with
      space := if out.getLast? = some s.ending then out.dropLast else out }
    return on
  | .run (some command) =>
    let out ← outputOfCommand call command
    modify fun s => if out.isEmpty then s else s.emit out
    return on
  | .substitute sub =>
    match sub.regex.or s.lastRegex with
    | none => return .failed "no previous regular expression"
    | some m =>
      let (text, done) := substituted sub m s.space
      set { s with lastRegex := some m }
      if !done then return on
      modify fun s => { s with space := text, substituted := true }
      if sub.runs then
        let out ← outputOfCommand call text
        modify fun s => { s with
          space := if out.getLast? = some s.ending then out.dropLast else out }
      if sub.prints then modify fun s => s.emitLine s.space
      if let some path := sub.file then
        let s ← get
        writeTo path s.space s.ended
      return on

/-- Run the program on the line at hand from a place on. -/
def runFrom (call : Caller) (program : Array Instruction) : Nat → Nat → Editing Next
  | 0, _ => return .quit true
  | fuel + 1, place => do
    match program[place]? with
    | none => return .done true
    | some x =>
      match (← get).meant place x with
      | .error reason => return .failed reason
      | .ok (meant, s) =>
        set s
        if meant == x.negated then
          match x.action with
          | .block next => runFrom call program fuel next
          | _ => runFrom call program fuel (place + 1)
        else
          match ← execute call program place x with
          | .go next => runFrom call program fuel next
          | next => return next

/-- The most commands that are run on one line. -/
def fuel : Nat := 1000000

/-- The line at hand is done. -/
def finish (prints : Bool) : Editing Unit := do
  let s ← get
  if prints && !s.quiet then set (s.emitLine s.space)
  flush

/-- How a run ends. -/
inductive Ending where
  | atEnd
  | quit
  | failed (reason : String)

/-- Run the program on the line at hand and on all that follow. -/
def runLines (call : Caller) (program : Array Instruction) : Nat → Editing Ending
  | 0 => return .quit
  | n + 1 => do
    modify fun s => { s with substituted := false }
    match ← runFrom call program fuel 0 with
    | .quit prints =>
      finish prints
      return .quit
    | .again =>
      flush
      runLines call program n
    | .done prints =>
      finish prints
      if ← nextLine then runLines call program n else return .atEnd
    | .failed reason => return .failed reason
    | .go _ => return .atEnd

/-- Run the program on the lines that are left. -/
def runAll (call : Caller) (program : Array Instruction) : Editing Ending := do
  if !(← nextLine) then return .atEnd
  let s ← get
  let size := s.space.length + sumOf (s.left.map List.length) + s.left.length
    + sumOf (s.later.map fun f => sumOf (f.lines.map List.length) + f.lines.length)
  runLines call program (2 * size + 2)

/-- The state before anything is read. -/
def State.start (quiet apart : Bool) (ending : Char) (width : Nat) (files : List Input) : State :=
  { space := [], held := [], line := 0, file := ['-'], left := [], later := files, ended := true
    heldEnded := true, out := [], owed := false, queue := [], partly := [], entered := []
    lastRegex := none, substituted := false, quiet, apart, ending, width, status := 0 }

end SvgSkeleton.Shell.Sed
