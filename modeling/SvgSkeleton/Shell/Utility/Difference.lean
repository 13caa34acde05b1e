import SvgSkeleton.Shell.Calendar
import SvgSkeleton.Shell.Pattern
import SvgSkeleton.Shell.Regex.Posix
import SvgSkeleton.Shell.Utility.Difference.Report
import SvgSkeleton.Shell.Utility.Options
import SvgSkeleton.Shell.Utility.Path

/-!
`diff`: what has to be changed in one file to get another one, or in the files of one folder to get
those of another one.
-/

namespace SvgSkeleton.Shell.Difference

/-! ### Options -/

/-- The letter of an option that has only a long name. -/
def longLetter (n : Nat) : Char := Char.ofNat (256 + n)

def normalLetter : Char := longLetter 0
def stripLetter : Char := longLetter 1
def suppressLetter : Char := longLetter 2
def leftLetter : Char := longLetter 3
def tabSizeLetter : Char := longLetter 4
def fromLetter : Char := longLetter 5
def toLetter : Char := longLetter 6
def horizonLetter : Char := longLetter 7
def bareLetter : Char := longLetter 8
def idleLetter : Char := longLetter 9
def colorLetter : Char := longLetter 10
def contextLetter : Char := longLetter 11
def unifiedLetter : Char := longLetter 12

def forms : List OptionForm :=
  [flag 'a' ["text"], flag 'b' ["ignore-space-change"], flag 'B' ["ignore-blank-lines"],
   flag 'c' [], setting 'C' [], variant contextLetter ["context"], flag 'd' ["minimal"],
   flag 'e' ["ed"], flag 'E' ["ignore-tab-expansion"], flag 'f' ["forward-ed"],
   setting 'F' ["show-function-line"], flag 'H' ["speed-large-files"], flag 'i' ["ignore-case"],
   setting 'I' ["ignore-matching-lines"], setting 'L' ["label"], flag 'n' ["rcs"],
   flag 'N' ["new-file"], flag 'p' ["show-c-function"], flag 'P' ["unidirectional-new-file"],
   flag 'q' ["brief"], flag 'r' ["recursive"], flag 's' ["report-identical-files"],
   setting 'S' ["starting-file"], flag 't' ["expand-tabs"], flag 'T' ["initial-tab"], flag 'u' [],
   setting 'U' [], variant unifiedLetter ["unified"], flag 'w' ["ignore-all-space"],
   setting 'W' ["width"], setting 'x' ["exclude"], setting 'X' ["exclude-from"],
   flag 'y' ["side-by-side"], flag 'Z' ["ignore-trailing-space"], flag normalLetter ["normal"],
   flag stripLetter ["strip-trailing-cr"], flag suppressLetter ["suppress-common-lines"],
   flag leftLetter ["left-column"], setting tabSizeLetter ["tabsize"],
   setting fromLetter ["from-file"], setting toLetter ["to-file"],
   setting horizonLetter ["horizon-lines"], flag bareLetter ["suppress-blank-empty"],
   flag idleLetter ["no-dereference", "no-ignore-file-name-case", "ignore-file-name-case"],
   variant colorLetter ["color"]] ++ switches "0123456789h"

/-- Why options cannot be followed. -/
inductive Misuse where
  | conflict
  | context (text : Bytes)
  | width (text : Bytes)
  | tabSize (text : Bytes)
  | labels
  | expression (text reason : Bytes)

def Misuse.message : Misuse → Bytes
  | .conflict => "conflicting output style options".toList
  | .context s => "invalid context length ".toList ++ Quoting.plain s
  | .width s => "invalid width ".toList ++ Quoting.plain s
  | .tabSize s => "invalid tabsize ".toList ++ Quoting.plain s
  | .labels => "too many file label options".toList
  | .expression s reason => s ++ ": ".toList ++ reason

/-- The letter that stands for a style. -/
def styleOf (letter : Char) : Option Char :=
  if letter = 'U' || letter = unifiedLetter || letter = 'u' then some 'u'
  else if letter = 'C' || letter = contextLetter || letter = 'c' then some 'c'
  else if "efny".toList.contains letter || letter = normalLetter then some letter
  else none

/-- How many lines of context there are usually. -/
def usualContext : Nat := 3

/-- The number of a context; a text that is none is a misuse. -/
def contextOf (a : Arguments) : Except Misuse Nat := do
  let digits := (a.options.filter (·.1.isDigit)).map (·.1)
  let least := if digits.isEmpty then 0 else Text.ofDigits 10 digits
  let given ← a.options.filterMapM fun (letter, text) =>
    if letter = 'u' || letter = 'c' then pure (if digits.isEmpty then some usualContext else none)
    else if letter = 'U' || letter = 'C' || letter = unifiedLetter || letter = contextLetter then
      if text.isEmpty then pure (some usualContext)
      else match Bytes.toNat? text with
        | some n => pure (some n)
        | none => throw (Misuse.context text)
    else pure none
  return given.foldl max least

/-- How wide two texts side by side are usually. -/
def usualWidth : Nat := 130

def usualTabSize : Nat := 8

/-- A positive number in a text. -/
def positive (fault : Bytes → Misuse) (usual : Nat) : Option Bytes → Except Misuse Nat
  | none => .ok usual
  | some s =>
    match Bytes.toNat? s with
    | some n => if n = 0 then .error (fault s) else .ok n
    | none => .error (fault s)

/-- An expression that lines may fit. -/
def expressionOf (s : Bytes) : Except Misuse Matcher :=
  match Regex.Posix.matcher .basic false s with
  | .ok m => .ok m
  | .error e => .error (.expression s e.message.toList)

/-- What headings of sections look like in programs. -/
def programHeading : Bytes := "^[[:alpha:]$_]".toList

/-- The matcher for one of several expressions. -/
def anyOf (texts : List Bytes) : Except Misuse (Option Matcher) :=
  if texts.isEmpty then .ok none
  else (expressionOf (Bytes.join "\\|".toList texts)).map some

def values (a : Arguments) (letter : Char) : List Bytes :=
  (a.options.filter (·.1 == letter)).map (·.2)

def lookOf (a : Arguments) : Except Misuse Look := do
  let styles := (a.options.filterMap fun o => styleOf o.1).eraseDups
  if 1 < styles.length then throw .conflict
  let around ← contextOf a
  let width ← positive .width usualWidth (a.value? 'W')
  let tabSize ← positive .tabSize usualTabSize (a.value? tabSizeLetter)
  if 2 < (values a 'L').length then throw .labels
  let fitting ← anyOf (values a 'I')
  let heading ← anyOf (values a 'F' ++ if a.has 'p' then [programHeading] else [])
  let style : Style := match styles.head? with
    | some 'u' => .unified around
    | some 'c' => .context around
    | some 'e' => .editor
    | some 'f' => .editorForward
    | some 'n' => .commands
    | some 'y' => .sideBySide width (a.has leftLetter) (a.has suppressLetter)
    | _ => if styles.isEmpty && a.has 'p' then .context (max around usualContext) else .normal
  let blanks : Blanks :=
    if a.has 'w' then .all
    else if a.has 'b' then .amount
    else if a.has 'Z' then if a.has 'E' then .tabsAndTrailing else .trailing
    else if a.has 'E' then .tabs
    else .none
  return ⟨style, ⟨a.has 'i', blanks, a.has 'B', fitting, tabSize⟩, a.has 't', a.has 'T',
    a.has bareLetter, heading⟩

/-! ### Files -/

/-- What is to be done. -/
structure Task where
  name : Bytes
  look : Look
  /-- The options as they were written. -/
  written : Bytes
  labels : List Bytes
  margin : Nat
  recursive : Bool
  /-- Do files that are missing on the right count as empty, and those on the left? -/
  newRight : Bool
  newLeft : Bool
  brief : Bool
  tellsSame : Bool
  asText : Bool
  stripsReturns : Bool
  excluded : List Bytes

/-- One of two things that are compared. -/
structure Item where
  path : Bytes
  /-- What stands there; nothing if it is missing. -/
  node : Option FileTree

/-- What a path leads to. A dash is the input. -/
def item (path : Bytes) : Shell (Except OsError Item) := do
  if path = ['-'] then
    match ← readOperand path with
    | .ok s => return .ok ⟨path, some (.file (Bytes.toByteArray s))⟩
    | .error e => return .error e
  else return (← nodeAt? path).map fun node => ⟨path, some node⟩

def Item.isFolder (i : Item) : Bool := i.node.any (·.isFolder)

def Item.content (i : Item) : Shell Bytes := do
  match i.node with
  | some (.file b) => return Bytes.ofByteArray b
  | some (.special _) => return (← readFile i.path).toOption.getD []
  | _ => return []

/-- A time as it stands above a report. -/
def timeText (style : Style) (time : Int) : Bytes :=
  let t := Calendar.Moment.ofSeconds (time.fdiv 1000) ((time % 1000).toNat * 1000000)
  match style with
  | .context _ => t.formatted "%a %b %e %H:%M:%S %Y".toList
  | _ => t.formatted "%Y-%m-%d %H:%M:%S.%N %z".toList

/-- What is written of a file above a report. -/
def Task.title (t : Task) (label : Option Bytes) (i : Item) : Shell Bytes := do
  match label, i.node with
  | some s, _ => return s
  | none, none => return i.path ++ '\t' :: timeText t.look.style 0
  | none, some _ =>
    let m ← get
    let time ← if i.path = ['-'] then pure (now m) else do
      match ← locate i.path with
      | .ok place => pure (changedAt m place)
      | .error _ => pure 0
    return i.path ++ '\t' :: timeText t.look.style time

/-- A text without the carriage returns at the ends of its lines. -/
def withoutReturns : Bytes → Bytes
  | '\x0d' :: '\n' :: r => '\n' :: withoutReturns r
  | c :: r => c :: withoutReturns r
  | [] => []

/-- How much of a file shows whether it is a text. -/
def shownPart : Nat := 32768

def isText (s : Bytes) : Bool := !(s.take shownPart).contains '\x00'

def Task.tellDifference (t : Task) (kind : String) (a b : Item) : Shell Nat := do
  let _ := t
  write 1 (kind.toList ++ " ".toList ++ a.path ++ " and ".toList ++ b.path ++ " differ\n".toList)
  return 1

/-- What the styles for editors cannot tell of. -/
def needsEnds : Style → Bool
  | .editor | .editorForward => true
  | _ => false

/-- Does a style show texts that are equal? -/
def showsEqual : Style → Bool
  | .sideBySide _ _ changesOnly => !changesOnly
  | _ => false

/-- Compare two texts. -/
def Task.compareTexts (t : Task) (inside : Bool) (a b : Item) (s u : Bytes) : Shell Nat := do
  let title (n : Nat) (i : Item) := t.title t.labels[n]? i
  let (left, leftComplete) := linesOf s
  let (right, rightComplete) := linesOf u
  let forEditor := needsEnds t.look.style
  let first : Side := ⟨a.path, ← title 0 a, left, leftComplete || forEditor⟩
  let second : Side := ⟨b.path, ← title 1 b, right, rightComplete || forEditor⟩
  let cs := changes t.look.rules (max t.margin t.look.style.around) first second
  let differ := cs.any fun c => !t.look.rules.ignores first second c
  if t.brief then
    if differ then t.tellDifference "Files" a b else return 0
  else
    if differ || showsEqual t.look.style then
      let report := t.look.report first second cs
      unless report.isEmpty do
        if inside then
          write 1 (t.name ++ t.written ++ ' ' :: Quoting.ifNeeded a.path ++ ' ' ::
            Quoting.ifNeeded b.path ++ ['\n'])
        write 1 report
    let broken := if forEditor then [(a, leftComplete), (b, rightComplete)].filter (!·.2) else []
    if !broken.isEmpty && s != u then
      broken.forM fun (i, _) =>
        utilityError t.name (i.path ++ ": No newline at end of file\n".toList)
      return 2
    return if differ then 1 else 0

/-- Compare two files. -/
def Task.compareFiles (t : Task) (inside : Bool) (a b : Item) : Shell Nat := do
  let s ← a.content
  let u ← b.content
  let status ← if s = u && !showsEqual t.look.style then pure 0
    else if !t.asText && !(isText s && isText u) then
      if s = u then pure 0 else t.tellDifference (if t.brief then "Files" else "Binary files") a b
    else
      let clean (s : Bytes) : Bytes := if t.stripsReturns then withoutReturns s else s
      t.compareTexts inside a b (clean s) (clean u)
  if status = 0 && t.tellsSame then
    write 1 ("Files ".toList ++ a.path ++ " and ".toList ++ b.path ++ " are identical\n".toList)
  return status

/-- What kind of thing stands at a place. -/
def kindName : FileTree → String
  | .file b => if b.size = 0 then "regular empty file" else "regular file"
  | .folder _ => "directory"
  | .link _ => "symbolic link"
  | .special .pipe => "fifo"
  | .special (.program _) => "regular file"
  | .special _ => "character special file"

/-- Is it one that can be compared among others? -/
def isRegular : FileTree → Bool
  | .file _ | .special (.program _) => true
  | _ => false

/-- The names of the entries of a folder. -/
def Item.names (i : Item) : List Bytes :=
  match i.node with
  | some node => (entriesOf node).map (·.1)
  | none => []

/-- An entry of a folder; links are followed. -/
def Item.child (i : Item) (name : Bytes) : Shell Item := do
  let path := if i.path.getLast? = some '/' then i.path ++ name else i.path ++ '/' :: name
  if i.node.isNone then return ⟨path, none⟩
  match ← nodeAt? path with
  | .ok node => return ⟨path, some node⟩
  | .error _ => return ⟨path, none⟩

/-- Compare what stands in two folders, or two files in them. -/
def Task.compareInside (t : Task) : Nat → Item → Item → Shell Nat
  | 0, _, _ => return 2
  | fuel + 1, a, b => do
    let names := ((a.names ++ b.names).mergeSort Bytes.inOrder).eraseDups
    let names := names.filter fun name => !t.excluded.any (matchesPattern · name)
    let statuses ← names.mapM fun name => do
      let x ← a.child name
      let y ← b.child name
      let isNew := (x.node.isNone && t.newLeft) || (y.node.isNone && t.newRight)
      let here := if a.names.contains name then a else b
      let alone := a.names.contains name != b.names.contains name
      if alone && !(isNew && (t.recursive || !(x.isFolder || y.isFolder))) then
        write 1 ("Only in ".toList ++ here.path ++ ": ".toList ++ name ++ ['\n'])
        return 1
      else if (x.isFolder && y.isFolder) || (alone && (x.isFolder || y.isFolder)) then
        if t.recursive then t.compareInside fuel x y
        else
          write 1 ("Common subdirectories: ".toList ++ x.path ++ " and ".toList ++ y.path ++ ['\n'])
          return 0
      else
        match x.node, y.node with
        | some n, some o =>
          if isRegular n && isRegular o then t.compareFiles true x y
          else
            write 1 ("File ".toList ++ x.path ++ " is a ".toList ++ (kindName n).toList
              ++ " while file ".toList ++ y.path ++ " is a ".toList 
              ++ (kindName o).toList ++ ['\n'])
            return 1
        | none, none => return 0
        | none, _ | _, none =>
          if alone then t.compareFiles true x y
          else
            let broken := if x.node.isNone then x else y
            utilityError t.name (broken.path ++ ": No such file or directory".toList)
            return 2
    return statuses.foldl max 0

/-- How deep folders may be nested. -/
def depthLimit : Nat := 200

/-- Compare two operands. -/
def Task.compare (t : Task) (first second : Bytes) : Shell Nat := do
  let complain (path : Bytes) (e : OsError) : Shell Unit := utilityError t.name (path ++ ": ".toList
    ++ reasonText e)
  if first = ['-'] && second = ['-'] then return 0
  let looked (other : Except OsError Item) (isNew : Bool) (path : Bytes) (i : Except OsError Item) :
      Except (Bytes × OsError) Item :=
    match i, other with
    | .ok i, _ => .ok i
    | .error .noEntry, .ok _ => if isNew then .ok ⟨path, none⟩ else .error (path, .noEntry)
    | .error e, _ => .error (path, e)
  let inThere (folder file : Bytes) : Bytes :=
    if folder.getLast? = some '/' then folder ++ lastName file else folder ++ '/' :: lastName file
  let x ← item first
  let y ← item second
  let (firstPath, x, secondPath, y) ← match x, y with
    | .ok i, .ok j => do
      if i.isFolder && !j.isFolder then
        let path := inThere first second
        pure (path, ← item path, second, .ok j)
      else if j.isFolder && !i.isFolder then
        let path := inThere second first
        pure (first, .ok i, path, ← item path)
      else pure (first, .ok i, second, .ok j)
    | x, y => pure (first, x, second, y)
  match looked y t.newLeft firstPath x, looked x t.newRight secondPath y with
  | .ok a, .ok b =>
    if a.isFolder || b.isFolder then t.compareInside depthLimit a b else t.compareFiles false a b
  | a, b =>
    for r in [a, b] do
      if let .error (path, e) := r then complain path e
    return 2

/-- The arguments that are no operands, as they are written in a report. -/
def writtenOptions : List Bytes → List Bytes → Bytes
  | [], _ => []
  | arg :: args, operands =>
    if operands.head? = some arg then writtenOptions args operands.tail
    else if arg = ['-', '-'] then []
    else ' ' :: Quoting.ifNeeded arg ++ writtenOptions args operands

def taskOf (name : Bytes) (args : List Bytes) (a : Arguments) (look : Look)
    (excluded : List Bytes) : Task :=
  ⟨name, look, writtenOptions args a.operands, values a 'L',
    ((a.value? horizonLetter).bind Bytes.toNat?).getD 0, a.has 'r', a.has 'N',
    a.has 'N' || a.has 'P', a.has 'q', a.has 's', a.has 'a', a.has stripLetter, excluded⟩

end Difference

def diff : Utility := fun name args =>
  match readArguments Difference.forms true (args.length + 1) args with
  | .error fault => misusedBy name fault.message
  | .ok a => do
    match Difference.lookOf a with
    | .error .labels =>
      utilityError name Difference.Misuse.labels.message
      return 2
    | .error misuse => misusedBy name misuse.message
    | .ok look =>
      let lists ← (Difference.values a 'X').mapM fun path => do
        return ((← readOperand path).toOption.getD [])
      let excluded := Difference.values a 'x' ++ (lists.flatMap Bytes.lines).map Bytes.chomp
      let task := Difference.taskOf name args a look excluded
      match a.value? Difference.fromLetter, a.value? Difference.toLetter, a.operands with
      | some from', _, operands =>
        return ((← operands.mapM fun path => task.compare from' path).foldl max 0)
      | none, some to', operands =>
        return ((← operands.mapM fun path => task.compare path to').foldl max 0)
      | none, none, [first, second] => task.compare first second
      | none, none, _ :: _ :: extra :: _ =>
        misusedBy name ("extra operand ".toList ++ Quoting.plain extra)
      | none, none, _ =>
        misusedBy name ("missing operand after ".toList ++ Quoting.plain (args.getLast?.getD name))

end SvgSkeleton.Shell
