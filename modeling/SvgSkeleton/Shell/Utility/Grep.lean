import SvgSkeleton.Shell.Regex.Perl
import SvgSkeleton.Shell.Regex.Posix
import SvgSkeleton.Shell.Utility.Options

/-!
`grep`: the lines in which an expression matches, with what stands around them.
-/

namespace SvgSkeleton.Shell

namespace Grep

/-- Letters for options that have only long names. -/
def colorLetter : Char := Char.ofNat 256
def labelLetter : Char := Char.ofNat 257
def separatorLetter : Char := Char.ofNat 258
def noSeparatorLetter : Char := Char.ofNat 259
def binaryLetter : Char := Char.ofNat 260
def includeLetter : Char := Char.ofNat 261
def excludeLetter : Char := Char.ofNat 262
def excludeFolderLetter : Char := Char.ofNat 263
def caseLetter : Char := Char.ofNat 264
def bufferLetter : Char := Char.ofNat 265

def forms : List OptionForm :=
  [flag 'q' ["quiet", "silent"], flag 'v' ["invert-match"],
   flag 'i' ["ignore-case"], flag 'y' [], flag 'c' ["count"],
   flag 'n' ["line-number"], flag 'o' ["only-matching"], flag 'b' ["byte-offset"],
   flag 'E' ["extended-regexp"], flag 'F' ["fixed-strings"],
   flag 'G' ["basic-regexp"], setting 'e' ["regexp"], setting 'f' ["file"],
   flag 'x' ["line-regexp"], flag 'w' ["word-regexp"], flag 's' ["no-messages"],
   flag 'l' ["files-with-matches"], flag 'L' ["files-without-match"],
   flag 'h' ["no-filename"], flag 'H' ["with-filename"], setting 'm' ["max-count"],
   flag 'a' ["text"], flag 'P' ["perl-regexp"], setting 'A' ["after-context"],
   setting 'B' ["before-context"], setting 'C' ["context"], flag 'r' ["recursive"],
   flag 'R' ["dereference-recursive"], flag 'T' ["initial-tab"], flag 'Z' ["null"],
   flag 'z' ["null-data"], flag 'I' [], flag 'U' ["binary"], flag 'u' [],
   setting 'd' ["directories"], setting 'D' ["devices"], flag bufferLetter ["line-buffered"],
   variant colorLetter ["color", "colour"], setting labelLetter ["label"],
   setting separatorLetter ["group-separator"], flag noSeparatorLetter ["no-group-separator"],
   setting binaryLetter ["binary-files"], setting includeLetter ["include"],
   setting excludeLetter ["exclude"], setting excludeFolderLetter ["exclude-dir"],
   flag caseLetter ["no-ignore-case"]] ++ switches "0123456789"

/-- What is done with a file that is no text. -/
inductive Binary where
  | told
  | text
  | passedOver
  deriving DecidableEq

/-- What is looked for, and how it is shown. -/
structure Plan where
  name : Bytes
  /-- Nothing matches if there is no matcher. -/
  matcher : Option Matcher
  inverted : Bool
  counts : Bool
  onlyMatches : Bool
  quiet : Bool
  /-- Only names are shown, of the files with matches or of the others. -/
  listing : Option Bool
  silent : Bool
  limit : Option Nat
  named : Bool
  numbered : Bool
  offsets : Bool
  tabbed : Bool
  nulNames : Bool
  before : Option Nat
  after : Option Nat
  separator : Option Bytes
  colored : Bool
  binary : Binary
  ending : Char
  label : Bytes

/-- The status for trouble. -/
def trouble : Nat := 2

/-! ### Expressions -/

/-- What goes wrong before anything is read. -/
inductive Fault where
  | message (s : String)
  | usage

/-- How an expression is written. -/
inductive Kind where
  | basic
  | extended
  | fixed
  | perl
  deriving DecidableEq

/-- The expression between ends of words or at both ends of the line. -/
def bounded (words wholes : Bool) (e : Regex) : Regex :=
  let word : Regex := .set false [.named "alnum".toList, .range '_' '_']
  if wholes then .seq (.anchor .textStart) (.seq e (.anchor .textEnd))
  else if words then .seq (.behind true [1] word) (.seq e (.ahead true word))
  else e

/-- What searches for some patterns, and what there is to warn of. -/
def matcher? (kind : Kind) (ignoreCase : Bool) (patterns : List Bytes) :
    Except Fault (Option Matcher × List String) :=
  match kind with
  | .perl =>
    match patterns with
    | [p] =>
      match Regex.Perl.matcher { Regex.Perl.Settings.usual with ignoreCase := ignoreCase } p with
      | .ok m => .ok (some m, [])
      | .error f => .error (.message f.message)
    | [] => .ok (none, [])
    | _ => .error (.message "the -P option only supports a single pattern")
  | .fixed =>
    match patterns.map Regex.literally with
    | [] => .ok (none, [])
    | e :: es => .ok (some (Matcher.ofPosix (es.foldl Regex.alt e) 0 ignoreCase), [])
  | kind =>
    let dialect := if kind = .basic then Regex.Dialect.basic else Regex.Dialect.extended
    match patterns.mapM (Regex.Posix.parse { dialect with lenient := true }) with
    | .error f => .error (.message f.message)
    | .ok [] => .ok (none, [])
    | .ok (f :: fs) =>
      let e := fs.foldl (fun e g => Regex.alt e g.expression) f.expression
      .ok (some (Matcher.ofPosix e 0 ignoreCase),
        (f :: fs).flatMap fun f => f.idle.map (· ++ " at start of expression"))

/-! ### Showing -/

/-- A line of a file. -/
structure Line where
  number : Nat
  offset : Nat
  text : Bytes
  selected : Bool

/-- The text between signs for a color. -/
def Plan.paint (p : Plan) (color : String) (s : Bytes) : Bytes :=
  if p.colored && !s.isEmpty then
    "\x1b[".toList ++ color.toList ++ "m\x1b[K".toList ++ s ++ "\x1b[m\x1b[K".toList
  else s

def Plan.paintName (p : Plan) (s : Bytes) : Bytes := p.paint "35" s

def Plan.paintSign (p : Plan) (s : Bytes) : Bytes := p.paint "36" s

def Plan.nameWith (p : Plan) (shown : Bytes) (sign : Bytes) : Bytes :=
  p.paintName shown ++ (if p.nulNames then ['\x00'] else sign)

/-- What stands in front of a line. -/
def Plan.head (p : Plan) (shown : Bytes) (sign : Char) (line : Line) (offset : Nat) : Bytes :=
  let mark := p.paintSign [sign]
  let number (n : Nat) : Bytes :=
    p.paint "32" (Bytes.padLeft (if p.tabbed then 2 else 0) (Bytes.ofNat n)) ++ mark
  (if p.named then p.nameWith shown mark else [])
    ++ (if p.numbered then number line.number else [])
    ++ (if p.offsets then number offset else [])
    ++ (if p.tabbed && (p.named || p.numbered || p.offsets) && !line.text.isEmpty then ['\t']
      else [])

/-- The matches in a line that are not empty. -/
def Plan.matchesIn (p : Plan) (text : Bytes) : List Match :=
  match p.matcher with
  | none => []
  | some m => (m.findAll text).filter (!·.isEmpty)

/-- The line with its matches painted. -/
def Plan.painted (p : Plan) (text : Bytes) : Bytes :=
  let (done, shown) := (p.matchesIn text).foldl (fun (done, shown) m =>
    (m.last.index, shown ++ (text.drop done).take (m.first.index - done)
      ++ p.paint "01;31" m.text)) (0, [])
  shown ++ text.drop done

/-- A line as it is shown. The sign tells whether it has been selected. -/
def Plan.showLine (p : Plan) (shown : Bytes) (sign : Char) (line : Line) : Bytes :=
  let hasMatch := (sign == ':') != p.inverted
  if p.onlyMatches then
    if !hasMatch then []
    else
      (p.matchesIn line.text).flatMap fun m =>
        p.head shown sign line (line.offset + m.first.index) ++ p.paint "01;31" m.text
          ++ [p.ending]
  else
    p.head shown sign line line.offset
      ++ (if p.colored && hasMatch then p.painted line.text else line.text) ++ [p.ending]

/-- What has been shown so far, the latest piece first, and what may have to be shown. -/
structure Showing where
  out : List Bytes
  /-- The lines before the next one that may have to be shown, the latest first. -/
  held : List Line
  /-- How many lines more are shown behind the last one that was selected. -/
  pending : Nat
  last : Option Nat
  left : Option Nat
  /-- Has anything been shown at all? -/
  used : Bool

/-- Show a line. -/
def Plan.putLine (p : Plan) (shown : Bytes) (sign : Char) (line : Line) (s : Showing) : Showing :=
  { s with out := p.showLine shown sign line :: s.out, last := some line.number, used := true }

/-- Show what a line gives rise to. -/
def Plan.step (p : Plan) (shown : Bytes) (s : Showing) (line : Line) : Showing :=
  if s.left = some 0 then
    if s.pending = 0 then s
    else { p.putLine shown '-' line s with pending := s.pending - 1 }
  else if line.selected then
    let first := (s.held.getLast?.map (·.number)).getD line.number
    let apart := (p.before.isSome || p.after.isSome) && s.used && s.last != some (first - 1)
    let s := match apart, p.separator with
      | true, some text => { s with out := (p.paintSign text ++ ['\n']) :: s.out }
      | _, _ => s
    let s := s.held.reverse.foldl (fun s l => p.putLine shown '-' l s) s
    { p.putLine shown ':' line s with
      held := [], pending := p.after.getD 0, left := s.left.map (· - 1) }
  else if s.pending > 0 then { p.putLine shown '-' line s with pending := s.pending - 1 }
  else { s with held := (line :: s.held).take (p.before.getD 0) }

/-- The lines of a text. -/
def Plan.linesOf (p : Plan) (s : Bytes) : List Line :=
  ((piecesAt p.ending s).foldl (fun (n, offset, lines) text =>
    let found := match p.matcher with
      | some m => m.isMatch text
      | none => false
    (n + 1, offset + text.length + 1, ⟨n, offset, text, found != p.inverted⟩ :: lines))
    (1, 0, ([] : List Line))).2.2.reverse

/-- The lines that are selected, as many as may be. -/
def Plan.selected (p : Plan) (lines : List Line) : List Line :=
  let found := lines.filter (·.selected)
  match p.limit with
  | some n => found.take n
  | none => found

/-- Show what is found in a text; `used` tells whether anything has been shown before. The results
are whether lines are selected, and whether anything has been shown by now. -/
def Plan.report (p : Plan) (shown content : Bytes) (used : Bool) : Shell (Bool × Bool) := do
  let isBinary := p.binary != .text && p.ending == '\n' && content.contains '\x00'
  if isBinary && p.binary = .passedOver then return (false, used)
  let lines := p.linesOf content
  let found := p.selected lines
  let hit := !found.isEmpty
  if p.quiet then return (hit, used)
  if p.counts && p.listing.isNone then
    write 1 ((if p.named then p.nameWith shown (p.paintSign [':']) else [])
      ++ Bytes.ofNat found.length ++ ['\n'])
  match p.listing with
  | some wanted =>
    if hit == wanted then write 1 (p.nameWith shown ['\n'])
    return (hit == wanted, used)
  | none =>
    if p.counts then return (hit, used)
    if isBinary then
      if hit then write 1 ("grep: ".toList ++ shown ++ ": binary file matches\n".toList)
      return (hit, used)
    let s := lines.foldl (p.step shown) ⟨[], [], 0, none, p.limit, used⟩
    write 1 s.out.reverse.flatten
    return (hit, s.used)

/-! ### Files -/

/-- Which files are searched. -/
structure Choice where
  recursive : Bool
  followsLinks : Bool
  skipsFolders : Bool
  included : List Bytes
  excluded : List Bytes
  excludedFolders : List Bytes

/-- Does a pattern match a path or its last name? -/
def fits (pattern path : Bytes) : Bool :=
  let glob := globOf (pattern.map fun c => (c, false))
  let last := (path.reverse.takeWhile (· != '/')).reverse
  Glob.matchesAll glob path || Glob.matchesAll glob last

def Choice.takesFile (c : Choice) (path : Bytes) : Bool :=
  (c.included.isEmpty || c.included.any (fits · path)) && !c.excluded.any (fits · path)

mutual

/-- The paths of the files in a folder and below. -/
def filesBelow (c : Choice) (path : Bytes) : FileTree → List Bytes
  | .folder entries => filesIn c path entries
  | _ => [path]

def filesIn (c : Choice) (path : Bytes) : List (FileName × FileTree) → List Bytes
  | [] => []
  | (name, node) :: rest =>
    let name := Bytes.ofList name
    let below := if path.isEmpty then name
      else if path.getLast? = some '/' then path ++ name else path ++ '/' :: name
    let here := match node with
      | .folder _ =>
        if c.excludedFolders.any (fits · name) then [] else filesBelow c below node
      | .file _ => if c.takesFile name then [below] else []
      | _ => []
    filesIn c path rest ++ here

end

/-- How much is read at a time. -/
def blockSize : Nat := 65536

/-- Show what is found in the input. -/
def Plan.reportInput (p : Plan) (shown : Bytes) (used : Bool) : Shell (Bool × Bool) := do
  let content : Bytes ← takeUsed blockSize fun (s : Bytes) =>
    match p.limit with
    | none => (s, s.length)
    | some n =>
      let found := (p.linesOf s).filter (·.selected)
      if found.length < n then (s, s.length)
      else
        match (found.take n).getLast? with
        | some l => (s, min s.length (l.offset + l.text.length + 1))
        | none => (s, 0)
  p.report shown content used

/-- Search files one after the other. The results are whether lines are selected, and whether there
is trouble. -/
def Plan.search (p : Plan) (c : Choice) (used : Bool) : List Bytes → Shell (Bool × Bool)
  | [] => return (false, false)
  | path :: rest => do
    let outcome : Option (Bool × Bool) ← do
      if path = ['-'] then
        match ← inputFault? with
        | some e =>
          unless p.silent do utilityError p.name (p.label ++ ": ".toList ++ reasonText e)
          if (← streamOf? 0).isSome then
            let _ ← p.report p.label [] used
          pure none
        | none => pure (some (← p.reportInput p.label used))
      else
        match ← readFile path with
        | .error .isFolder =>
          if c.skipsFolders then pure (some (false, used))
          else
            unless p.silent do utilityError p.name (path ++ ": Is a directory".toList)
            let _ ← p.report path [] used
            pure none
        | .error e =>
          unless p.silent do utilityError p.name (path ++ ": ".toList ++ reasonText e)
          pure none
        | .ok content =>
          if !p.quiet && p.listing.isNone && p.limit != some 1 && (← isOutput path) then
            unless p.silent do
              utilityError p.name (path ++ ": input file is also the output".toList)
            pure none
          else pure (some (← p.report path content used))
    let found := (outcome.map (·.1)).getD false
    if p.quiet && found then return (true, false)
    let (more, failed) ← p.search c ((outcome.map (·.2)).getD used) rest
    return (found || more, failed || outcome.isNone)

/-! ### The command -/

/-- The patterns in options, or the first operand, and the other operands. -/
def patternsOf (a : Arguments) : Shell (Except Fault (Option (List Bytes) × List Bytes)) := do
  let given := a.options.filter fun o => o.1 == 'e' || o.1 == 'f'
  if given.isEmpty then
    match a.operands with
    | [] => return .error .usage
    | p :: rest => return .ok (some (Bytes.splitAt '\n' p), rest)
  let parts ← given.mapM fun o => do
    if o.1 == 'e' then return some (Bytes.splitAt '\n' o.2)
    match ← readOperand o.2 with
    | .ok s => return some (piecesAt '\n' s)
    | .error e =>
      utilityError "grep".toList (o.2 ++ ": ".toList ++ reasonText e)
      return none
  return .ok (if parts.all Option.isSome then some (parts.filterMap id).flatten else none,
    a.operands)

/-- A number of lines. -/
def context? (s : Bytes) : Option Nat := Bytes.toNat? s

/-- What is wrong with the values of options. -/
def badValue? (a : Arguments) : Option Fault :=
  let badContext := a.options.find? fun o =>
    (o.1 == 'A' || o.1 == 'B' || o.1 == 'C') && (context? o.2).isNone
  let kinds := (a.options.map (·.1)).filter "EFGP".toList.contains
  match badContext, a.value? 'm', a.value? binaryLetter with
  | some o, _, _ =>
    some (.message (String.ofList (o.2 ++ ": invalid context length argument".toList)))
  | none, some m, _ =>
    if (Bytes.toInt? m).isNone then some (.message "invalid max count") else none
  | none, none, some t =>
    if ["binary", "text", "without-match"].contains (String.ofList t) then none
    else some (.message "unknown binary-files type")
  | none, none, none =>
    if kinds.contains 'P' && kinds.any (· != 'P') then
      some (.message "conflicting matchers specified")
    else none

/-- Say how the utility is used. -/
def usage (name : Bytes) : Shell Nat := do
  write 2 ("Usage: ".toList ++ name ++ " [OPTION]... PATTERNS [FILE]...\nTry '".toList ++ name
    ++ " --help' for more information.\n".toList)
  return trouble

def planOf (name : Bytes) (a : Arguments) (operands : Nat) (folders : Bool) : Plan :=
  let digits := (a.options.map (·.1)).filter Char.isDigit
  let around := ((a.value? 'C').bind context?).or
    (if digits.isEmpty then none else some (Text.ofDigits 10 digits))
  let binary := match a.last? (String.ofList ['a', 'I', 'z', binaryLetter]) with
    | some 'a' => .text
    | some 'I' => .passedOver
    | some 'z' | none => .told
    | some _ => match (a.value? binaryLetter).map String.ofList with
      | some "text" => .text
      | some "without-match" => .passedOver
      | _ => .told
  { name, matcher := none, inverted := a.has 'v', counts := a.has 'c', onlyMatches := a.has 'o'
    quiet := a.has 'q', listing := (a.last? "lL").map (· == 'l'), silent := a.has 's'
    limit := ((a.value? 'm').bind Bytes.toInt?).bind fun n => if n < 0 then none else some n.toNat
    named := match a.last? "hH" with
      | some c => c == 'H'
      | none => operands > 1 || folders
    numbered := a.has 'n', offsets := a.has 'b', tabbed := a.has 'T', nulNames := a.has 'Z'
    before := ((a.value? 'B').bind context?).or around
    after := ((a.value? 'A').bind context?).or around
    separator := if a.has noSeparatorLetter then none
      else some ((a.value? separatorLetter).getD ['-', '-'])
    colored := match (a.value? colorLetter).map String.ofList with
      | some "always" | some "yes" | some "force" => true
      | _ => false
    binary, ending := if a.has 'z' then '\x00' else '\n'
    label := (a.value? labelLetter).getD "(standard input)".toList }

def run (name : Bytes) (a : Arguments) : Shell Nat := do
  if let some fault := badValue? a then return ← refuse fault
  match ← patternsOf a with
  | .error fault => refuse fault
  | .ok (none, _) => return trouble
  | .ok (some patterns, operands) =>
    let kind := match a.last? "EFGP" with
      | some 'E' => Kind.extended
      | some 'F' => .fixed
      | some 'P' => .perl
      | some _ => .basic
      | none => if name = "fgrep".toList then .fixed
        else if name = "egrep".toList then .extended else .basic
    let ignoreCase := match a.last? (String.ofList ['i', 'y', caseLetter]) with
      | some c => c != caseLetter
      | none => false
    match matcher? kind ignoreCase patterns with
    | .error fault => refuse fault
    | .ok (m, warnings) =>
      warnings.forM fun w => utilityError name ("warning: " ++ w).toList
      let recursive := a.has 'r' || a.has 'R' || a.value? 'd' = some "recurse".toList
        || name = "rgrep".toList
      let c : Choice :=
        ⟨recursive, a.has 'R', recursive || a.value? 'd' = some "skip".toList,
         valuesOf includeLetter, valuesOf excludeLetter, valuesOf excludeFolderLetter⟩
      let noOperands := operands.isEmpty
      let operands := if noOperands then [if recursive then ['.'] else ['-']] else operands
      let files ← operands.mapM fun path => do
        if path = ['-'] then return [path]
        match ← nodeAt? path with
        | .ok node =>
          if node.isFolder && recursive then
            return filesBelow c (if noOperands then [] else path) node
          else return if c.takesFile path then [path] else []
        | .error _ => return [path]
      let folders ← operands.anyM fun path => do
        match ← nodeAt? path with
        | .ok node => return node.isFolder && recursive
        | .error _ => return false
      let p := { planOf name a operands.length folders with
        matcher := m.map fun (x : Matcher) => x.map (bounded (a.has 'w') (a.has 'x')) }
      if p.limit = some 0 && p.listing != some false then return 1
      let (found, failed) ← p.search c false files.flatten
      return if failed && !(found && p.quiet) then trouble else if found then 0 else 1
where
  refuse : Fault → Shell Nat
    | .usage => usage name
    | .message s => do
      utilityError name s.toList
      return trouble
  valuesOf (letter : Char) : List Bytes :=
    (a.options.filter (·.1 == letter)).map (·.2)

end Grep

def grep : Utility := fun name args =>
  match readArguments Grep.forms true (args.length + 1) args with
  | .error fault => do
    utilityError name fault.message
    Grep.usage name
  | .ok a => Grep.run name a

end SvgSkeleton.Shell
