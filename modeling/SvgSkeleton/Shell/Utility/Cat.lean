import SvgSkeleton.Shell.Utility.Options

/-!
Utilities that pass whole texts on: `cat`, `tee`, `tac` and `rev`.
-/

namespace SvgSkeleton.Shell

/-! ### `cat` and `tee` -/

/-- How `cat` changes the lines that it passes on. -/
structure CatStyle where
  numbers : Bool
  numbersNonblank : Bool
  squeezes : Bool
  ends : Bool
  tabs : Bool
  visible : Bool

/-- A byte in a form that can be seen. -/
def visibleByte (c : Char) : Bytes :=
  let low (n : Nat) : Bytes :=
    if n < 0x20 then ['^', Char.ofNat (n + 64)] else if n = 0x7F then ['^', '?']
    else [Char.ofNat n]
  if c = '\n' || c = '\t' then [c]
  else if c.toNat < 128 then low c.toNat
  else 'M' :: '-' :: low (c.toNat - 128)

/-- A line as a style shows it. -/
def CatStyle.body (style : CatStyle) (line : Bytes) : Bytes :=
  let ended := line.getLast? == some '\n'
  let body := Bytes.chomp line
  let shown := if style.visible then body.flatMap visibleByte else body
  let shown := if style.tabs then shown.flatMap fun c => if c = '\t' then ['^', 'I'] else [c]
    else shown
  let shown := if style.ends && ended && !style.visible && body.getLast? = some '\r' then
      shown.dropLast ++ ['^', 'M']
    else shown
  shown ++ (if ended && style.ends then ['$'] else []) ++ (if ended then ['\n'] else [])

/-- The lines in a style. The state is the number of the last line, and whether it was empty. -/
def styledLines (style : CatStyle) : Nat → Bool → List Bytes → List Bytes
  | _, _, [] => []
  | n, wasBlank, line :: rest =>
    let blank := line = ['\n']
    if style.squeezes && blank && wasBlank then styledLines style n true rest
    else
      let counted := style.numbers && !(style.numbersNonblank && blank)
      let n := if counted then n + 1 else n
      let before := if counted then Bytes.padLeft 6 (Bytes.ofNat n) ++ ['\t'] else []
      (before ++ style.body line) :: styledLines style n blank rest

def catForms : List OptionForm :=
  [flag 'n' ["number"], flag 'b' ["number-nonblank"], flag 's' ["squeeze-blank"],
   flag 'E' ["show-ends"], flag 'T' ["show-tabs"], flag 'v' ["show-nonprinting"],
   flag 'A' ["show-all"]] ++ switches "etu"

/-- The contents of operands that are not what the output is led to. -/
def passedOn (name : Bytes) (operands : List Bytes) : Shell (List (Option Bytes)) :=
  operands.mapM fun path => do
    match ← readOperand path with
    | .ok content =>
      if !content.isEmpty && (← isOutput path) then
        utilityError name (Quoting.ifNeeded path ++ ": input file is output file".toList)
        return none
      return some content
    | .error e =>
      fileError name path e
      return none

def cat : Utility := withOptions catForms fun name a => do
  let all := a.has 'A'
  let style : CatStyle :=
    ⟨a.has 'n' || a.has 'b', a.has 'b', a.has 's', all || a.has 'E' || a.has 'e',
     all || a.has 'T' || a.has 't', all || a.has 'v' || a.has 'e' || a.has 't'⟩
  let operands := if a.operands.isEmpty then [['-']] else a.operands
  let plain := !(style.numbers || style.squeezes || style.ends || style.tabs || style.visible)
  if plain then
    let outcomes ← operands.mapM fun path => do
      let parts ← passedOn name [path]
      write 1 (parts.filterMap id).flatten
      return parts.all Option.isSome
    return if outcomes.all id then 0 else 1
  else
    let parts ← passedOn name operands
    write 1 (styledLines style 0 false (Bytes.lines (parts.filterMap id).flatten)).flatten
    return if parts.all Option.isSome then 0 else 1

def tee : Utility :=
  withOptions [flag 'a' ["append"], flag 'i' ["ignore-interrupts"], variant 'p' ["output-error"]]
    fun name a => do
      let files ← a.operands.mapM fun path => do
        match ← openToWrite path (a.has 'a') (a.has 'a') with
        | .ok i => return some i
        | .error e =>
          fileError name path e
          return none
      match ← readInput with
      | .error e =>
        utilityError name ("read error: ".toList ++ reasonText e)
        return 1
      | .ok content =>
        write 1 content
        let spare := 1000
        (files.filterMap id).forM fun i => do
          lead spare (some i)
          write spare content
          lead spare none
        return if files.all Option.isSome then 0 else 1

/-! ### Texts turned around -/

/-- The records of a text behind each of which a separator stands, with it. -/
def recordsBehind (sep : Bytes) : Nat → Bytes → Bytes → List Bytes
  | 0, _, _ => []
  | _ + 1, read, [] => if read.isEmpty then [] else [read.reverse]
  | fuel + 1, read, c :: r =>
    if sep.isPrefixOf (c :: r) then
      (read.reverse ++ sep) :: recordsBehind sep fuel [] ((c :: r).drop sep.length)
    else recordsBehind sep fuel (c :: read) r

/-- The records of a text in front of each of which a separator stands, with it. -/
def recordsBefore (sep : Bytes) : Nat → Bytes → Bytes → List Bytes
  | 0, _, _ => []
  | _ + 1, read, [] => if read.isEmpty then [] else [read.reverse]
  | fuel + 1, read, c :: r =>
    if sep.isPrefixOf (c :: r) then
      (if read.isEmpty then [] else [read.reverse])
        ++ recordsBefore sep fuel sep.reverse ((c :: r).drop sep.length)
    else recordsBefore sep fuel (c :: read) r

def tac : Utility :=
  withOptions [flag 'b' ["before"], flag 'r' ["regex"], setting 's' ["separator"]]
    fun name a => do
      let sep := match a.value? 's' with
        | some [] => ['\x00']
        | some s => s
        | none => ['\n']
      let operands := if a.operands.isEmpty then [['-']] else a.operands
      let outcomes ← operands.mapM fun path => do
        match ← readOperand path with
        | .ok s =>
          let records := if a.has 'b' then recordsBefore sep (s.length + 1) [] s
            else recordsBehind sep (s.length + 1) [] s
          write 1 records.reverse.flatten
          return true
        | .error e =>
          if failsLate e then
            let shown := if path = ['-'] then "'standard input'".toList
              else Quoting.ifNeeded path
            let reason := if path = ['-'] && e = .isFolder then "Invalid argument".toList
              else reasonText e
            utilityError name (shown ++ ": read error: ".toList ++ reason)
          else
            utilityError name ("failed to open ".toList ++ Quoting.always path
              ++ " for reading: ".toList ++ reasonText e)
          return false
      return if outcomes.all id then 0 else 1

/-- A text with each of its lines turned around. -/
def reversedLines (s : Bytes) : Bytes :=
  (Bytes.lines s).flatMap fun l =>
    let body := Bytes.chomp l
    body.reverse ++ l.drop body.length

/-- Every operand of `rev` is a file, a dash too. -/
def rev : Utility := withOptions [flag '0' ["zero"]] fun name a => do
  if a.operands.isEmpty then
    write 1 (reversedLines (← readAll 0))
    return 0
  let outcomes ← a.operands.mapM fun path => do
    match ← readFile path with
    | .ok content =>
      write 1 (reversedLines content)
      return true
    | .error e =>
      utilityError name ("cannot open ".toList ++ path ++ ": ".toList ++ reasonText e)
      return false
  return if outcomes.all id then 0 else 1

end SvgSkeleton.Shell
