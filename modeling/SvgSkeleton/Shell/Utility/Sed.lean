import SvgSkeleton.Shell.Utility.Sed.Edit
import SvgSkeleton.Shell.Utility.Sed.Reader

/-!
`sed`: files that are edited by a script, to the output or in their places.
-/

namespace SvgSkeleton.Shell

namespace Sed

/-- Letters for options that have only long names. -/
def posixLetter : Char := Char.ofNat 256
def linksLetter : Char := Char.ofNat 257
def sandboxLetter : Char := Char.ofNat 258

def forms : List OptionForm :=
  [flag 'n' ["quiet", "silent"], setting 'e' ["expression"], setting 'f' ["file"],
   flag 'E' ["regexp-extended"], flag 'r' [], flag 's' ["separate"],
   variant 'i' ["in-place"], flag 'u' ["unbuffered"], flag 'z' ["null-data", "zero-terminated"],
   setting 'l' ["line-length"], flag 'b' ["binary"], flag posixLetter ["posix"],
   flag linksLetter ["follow-symlinks"], flag sandboxLetter ["sandbox"]]

/-- How much is read at a time. -/
def blockSize : Nat := 4096

/-- The pieces of a text that end in a character, with it; the last one may lack it. -/
def linesAt (ending : Char) (s : Bytes) : List Bytes :=
  s.foldr (fun c ls =>
    if c = ending then [c] :: ls
    else
      match ls with
      | [] => [[c]]
      | l :: ls => (c :: l) :: ls) []

/-- How a fault in a script is told. -/
def Fault.message (f : Fault) : Bytes :=
  (match f.file with
    | some name => "file ".toList ++ name ++ " line ".toList ++ Bytes.ofNat f.line
    | none => "-e expression #".toList ++ Bytes.ofNat f.part ++ ", char ".toList
      ++ Bytes.ofNat f.place) ++ ": ".toList ++ f.reason

/-- Tell why a run has failed. -/
def tellFailure (name : Bytes) (reason : String) : Shell Nat := do
  utilityError name ("-e expression #1, char 0: " ++ reason).toList
  return 1

/-- The name of what a file held before it was edited. -/
def backupName (suffix path : Bytes) : Bytes :=
  let last := (path.reverse.takeWhile (· != '/')).reverse
  let folder := path.take (path.length - last.length)
  if suffix.contains '*' then
    let name := suffix.flatMap fun c => if c = '*' then last else [c]
    if name.contains '/' then name else folder ++ name
  else path ++ suffix

/-- Edit files in their places, one after the other. The state goes from each to the next. -/
def editInPlace (name suffix : Bytes) (call : Caller) (program : Array Instruction) :
    State → Nat → List Bytes → Shell Nat
  | _, status, [] => return status
  | s, status, path :: rest => do
    match ← readFile path with
    | .error .isFolder =>
      utilityError name ("couldn't edit ".toList ++ path ++ ": not a regular file".toList)
      editInPlace name suffix call program s (max status 4) rest
    | .error e =>
      utilityError name ("can't read ".toList ++ path ++ ": ".toList ++ reasonText e)
      editInPlace name suffix call program s (max status 2) rest
    | .ok content =>
      let s := { s with
        file := path, left := linesAt s.ending content, later := [], line := 0, out := []
        owed := false, entered := [], partly := [] }
      let (ending, s) ← (runAll call program).run s
      unless suffix.isEmpty do
        let _ ← putFile (backupName suffix path) false content
      let _ ← putFile path false s.out.reverse.flatten
      match ending with
      | .atEnd => editInPlace name suffix call program s status rest
      | .quit => return s.status
      | .failed reason => tellFailure name reason

/-- Edit files that are each on their own, to the output. -/
def editApart (call : Caller) (program : Array Instruction) :
    State → List Input → Shell (Ending × State)
  | s, [] => return (.atEnd, s)
  | s, input :: rest => do
    let s := { s with
      file := input.name, left := input.lines, line := 0, entered := [], partly := [] }
    let (ending, s) ← (runAll call program).run s
    match ending with
    | .atEnd => editApart call program s rest
    | ending => return (ending, s)

/-- Say that something cannot be read that is open. -/
def cannotRead (name path : Bytes) (e : OsError) : Shell Unit :=
  let shown := if path = ['-'] then "stdin".toList else path
  utilityError name ("read error on ".toList ++ shown ++ ": ".toList ++ reasonText e)

/-- The operands that can be read, with their lines, and the status. -/
def inputsOf (name : Bytes) (ending : Char) (operands : List Bytes) : Shell (List Input × Nat) := do
  let parts ← operands.mapM fun path => do
    match ← readOperand path with
    | .ok s => return (some ⟨path, linesAt ending s⟩, 0)
    | .error e =>
      if failsLate e then
        cannotRead name path e
        return (none, 4)
      utilityError name ("can't read ".toList ++ path ++ ": ".toList ++ reasonText e)
      return (none, 2)
  return (parts.filterMap (·.1), (parts.map (·.2)).foldl max 0)

/-- Edit the input. -/
def editInput (call : Caller) (program : Array Instruction) (start : State) :
    Shell (Ending × State) := do
  let m ← get
  let content ← readAll 0
  let lines := linesAt start.ending content
  let (ending, s) ← (runAll call program).run { start with left := lines }
  if !s.left.isEmpty then
    let used := sumOf ((lines.take (lines.length - s.left.length)).map List.length)
    let isFile := (← placeOf? 0).isSome
    let taken := if isFile then used else (used + blockSize - 1) / blockSize * blockSize
    giveBack m (content.drop taken) taken
  return (ending, s)
where
  /-- Put back what was not used. -/
  giveBack (m : Machine) (left : Bytes) (taken : Nat) : Shell Unit := do
    if let some i ← streamOf? 0 then
      match m.streams[i]? with
      | some (.source _) => setStream i (.source left)
      | some (.file place offset access) => setStream i (.file place (offset + taken) access)
      | _ => return ()

/-- The parts of the script, and the operands; nothing if there is no script, or one of its files
cannot be read. -/
def scriptOf (name : Bytes) (a : Arguments) : Shell (Except Nat (List Part × List Bytes)) := do
  let given := a.options.filter fun o => o.1 == 'e' || o.1 == 'f'
  if given.isEmpty then
    match a.operands with
    | [] =>
      write 2 ("Usage: ".toList ++ name
        ++ " [OPTION]... \x7bscript-only-if-no-other-script\x7d [input-file]...\n".toList)
      return .error 1
    | s :: rest => return .ok ([⟨s, none⟩], rest)
  let parts ← given.mapM fun o => do
    if o.1 == 'e' then return some ⟨o.2, none⟩
    match ← readOperand o.2 with
    | .ok s => return some ⟨s, some o.2⟩
    | .error e =>
      utilityError name ("couldn't open file ".toList ++ o.2 ++ ": ".toList ++ reasonText e)
      return none
  return if parts.all Option.isSome then .ok (parts.filterMap id, a.operands) else .error 4

def run (call : Caller) (name : Bytes) (a : Arguments) : Shell Nat := do
  match ← scriptOf name a with
  | .error status => return status
  | .ok (parts, operands) =>
    match program? (a.has 'E' || a.has 'r') parts with
    | .error f =>
      utilityError name f.message
      return 1
    | .ok program =>
      if let label :: _ := missingLabels program then
        utilityError name ("can't find label for jump to \x60".toList ++ label ++ ['\''])
        return 4
      (filesOf program).forM fun path => do
        unless ["/dev/stdout", "/dev/stderr"].contains (String.ofList path) do
          let _ ← putFile path false []
      let first := (parts.head?.map (·.text)).getD []
      let quiet := a.has 'n' || first = "#n".toList || "#n\n".toList.isPrefixOf first
      let inPlace := a.has 'i'
      let ending := if a.has 'z' then '\x00' else '\n'
      let width := ((a.value? 'l').bind Bytes.toNat?).getD 70
      let start := State.start quiet (inPlace || a.has 's') ending width []
      if inPlace then
        return ← editInPlace name ((a.value? 'i').getD []) call program start 0 operands
      let (status, (result, s)) ← do
        if operands.isEmpty || operands = [['-']] then
          if let some e ← inputFault? then
            cannotRead name ['-'] e
            return 4
          pure (0, ← editInput call program start)
        else
          let (inputs, status) ← inputsOf name ending operands
          if start.apart then
            pure (status, ← editApart call program start inputs)
          else pure (status, ← (runAll call program).run { start with later := inputs })
      write 1 s.out.reverse.flatten
      match result with
      | .failed reason => tellFailure name reason
      | .quit => return if s.status = 0 then status else s.status
      | .atEnd => return status

end Sed

def sed (call : Caller) : Utility := fun name args =>
  match readArguments Sed.forms true (args.length + 1) args with
  | .error fault => do
    utilityError name fault.message
    write 2 ("Usage: ".toList ++ name
      ++ " [OPTION]... \x7bscript-only-if-no-other-script\x7d [input-file]...\n".toList)
    return 1
  | .ok a => Sed.run call name a

end SvgSkeleton.Shell
