import SvgSkeleton.Shell.Utility.Launch

/-!
Commands that are run with further arguments or variables: `xargs` runs one again and again, each
time on some of the items that the input holds; `env` and `printenv` deal with the variables that
programs are given.
-/

namespace SvgSkeleton.Shell.Batches

/-! ### Items -/

/-- A piece of the input that becomes an argument. -/
structure Item where
  text : Bytes
  /-- Does it end a line? -/
  last : Bool
  deriving DecidableEq, Repr

/-- Where in the input a reader of items is. -/
inductive Spot where
  | between
  | within
  | quoted (mark : Char)
  | escaped

/-- Read on. What has been read of an item is given latest character first, with a flag that it is
there even if it is empty, which it is not at the end. Items end at blanks unless they are whole
lines. The last result is a quotation mark that is not closed. -/
def itemsFrom (whole : Bool) : Spot → Bool → Bytes → Bytes → List Item × Option Char
  | spot, _, word, [] =>
    let left := if word.isEmpty then [] else [⟨word.reverse, true⟩]
    match spot with
    | .quoted mark => ([], some mark)
    | _ => (left, none)
  | .escaped, there, word, c :: r => itemsFrom whole .within there (c :: word) r
  | .quoted mark, there, word, c :: r =>
    if c = '\n' then ([], some mark)
    else if c = mark then itemsFrom whole .within true word r
    else itemsFrom whole (.quoted mark) there (c :: word) r
  | spot, there, word, c :: r =>
    let between := match spot with
      | .between => true
      | _ => false
    if between && isSpaceByte c then itemsFrom whole .between false [] r
    else if c = '\n' || (!whole && isBlankByte c) then
      let (items, fault) := itemsFrom whole .between false [] r
      let here := there || !word.isEmpty
      (if here then ⟨word.reverse, c == '\n'⟩ :: items else items, fault)
    else if c = '\\' then itemsFrom whole .escaped there word r
    else if c = '\'' || c = '"' then itemsFrom whole (.quoted c) there word r
    else itemsFrom whole .within there (c :: word) r

/-- The items of a text in which quotation marks and backslashes protect blanks. -/
def items (whole : Bool) (s : Bytes) : List Item × Option Char :=
  itemsFrom whole .between false [] s

/-- The items of a text between delimiters. -/
def itemsBetween (delimiter : Char) (s : Bytes) : List Item :=
  (piecesAt delimiter s).map fun piece => ⟨piece, true⟩

/-- Why a text is no delimiter. -/
inductive DelimiterFault where
  | tooLong
  | unknownEscape
  deriving DecidableEq

/-- The delimiter that a text means, perhaps by an escape. -/
def delimiter? (s : Bytes) : Except DelimiterFault Char :=
  match s with
  | [c] => .ok c
  | ['\\', c] =>
    match c with
    | 'a' => .ok '\x07'
    | 'b' => .ok '\x08'
    | 'f' => .ok '\x0c'
    | 'n' => .ok '\n'
    | 'r' => .ok '\r'
    | 't' => .ok '\t'
    | 'v' => .ok '\x0b'
    | '\\' => .ok '\\'
    | '0' => .ok '\x00'
    | c => if c.isDigit then .ok (Char.ofNat (c.toNat - '0'.toNat)) else .error .unknownEscape
  | '\\' :: 'x' :: digits =>
    if digits.all fun c => (Text.hexValue c).isSome then
      .ok (Char.ofNat (Whole.ofDigits 16 digits % 256))
    else .error .unknownEscape
  | '\\' :: digits =>
    if digits.all fun c => '0' ≤ c && c ≤ '7' then .ok (Char.ofNat (Whole.ofDigits 8 digits % 256))
    else .error .unknownEscape
  | _ => .error .tooLong

/-! ### Batches -/

/-- How large a batch may be. -/
structure Limits where
  count : Option Nat
  lines : Option Nat
  /-- How many bytes the arguments of a command may take, each with one more behind it. -/
  size : Nat

/-- A batch that is being filled: its items, the latest first, how many of them end a line, and how
many bytes the command takes. -/
structure Filling where
  texts : List Bytes
  lines : Nat
  size : Nat

/-- The items in batches. A batch ends when it is full. The flag says that an item does not fit in
any. -/
def batches (limits : Limits) (start : Nat) (f : Filling) : List Item → List (List Bytes) × Bool
  | [] => (if f.texts.isEmpty then [] else [f.texts.reverse], false)
  | item :: rest =>
    let needed := item.text.length + 1
    if start + needed > limits.size then
      (if f.texts.isEmpty then [] else [f.texts.reverse], true)
    else
      let tooLarge := f.size + needed > limits.size
      let g : Filling := if tooLarge then ⟨[], 0, start⟩ else f
      let g : Filling := ⟨item.text :: g.texts, g.lines + item.last.toNat, g.size + needed⟩
      let full := limits.count.any (· ≤ g.texts.length)
        || (item.last && limits.lines.any (· ≤ g.lines))
      let (others, fault) := batches limits start (if full then ⟨[], 0, start⟩ else g) rest
      let others := if full then g.texts.reverse :: others else others
      (if tooLarge then f.texts.reverse :: others else others, fault)

/-- The string with every occurrence of a mark replaced. -/
def fill (mark value : Bytes) : Nat → Bytes → Bytes
  | 0, s => s
  | _ + 1, [] => []
  | fuel + 1, c :: r =>
    if !mark.isEmpty && mark.isPrefixOf (c :: r) then
      value ++ fill mark value fuel ((c :: r).drop mark.length)
    else c :: fill mark value fuel r

/-! ### The call of `xargs` -/

/-- The letter of an option that has only a long name. -/
def slotLetter : Char := Char.ofNat 256

def forms : List OptionForm :=
  [flag '0' ["null"], setting 'a' ["arg-file"], setting 'd' ["delimiter"], setting 'E' [],
   variant 'e' ["eof"], setting 'I' [], variant 'i' ["replace"], setting 'L' [],
   variant 'l' ["max-lines"], setting 'n' ["max-args"], flag 'o' ["open-tty"],
   flag 'p' ["interactive"], flag 'r' ["no-run-if-empty"], setting 's' ["max-chars"],
   flag 't' ["verbose"], flag 'x' ["exit"], setting 'P' ["max-procs"],
   setting slotLetter ["process-slot-var"]]

/-- What rules how items are gathered: a mark to be replaced, a number of lines, or a number of
items. -/
inductive Rule where
  | mark (text : Bytes)
  | lines (n : Nat)
  | count (n : Nat)

/-- How options call a rule, as one that is given up and as one that is kept. -/
def Rule.names : Rule → Char → String × String
  | .mark _, _ => ("replace", "replace/-I/-i")
  | .lines _, 'L' => ("max-lines", "L")
  | .lines _, _ => ("max-lines", "max-lines/-l")
  | .count _, _ => ("max-args", "max-args/-n")

/-- The rule that an option sets. -/
def ruleOf? (letter : Char) (value : Bytes) : Option Rule :=
  match letter with
  | 'I' => some (.mark value)
  | 'i' => some (.mark (if value.isEmpty then "\x7b\x7d".toList else value))
  | 'L' => (Bytes.toNat? value).map .lines
  | 'l' => some (.lines ((Bytes.toNat? value).getD 1))
  | 'n' => (Bytes.toNat? value).map .count
  | _ => none

/-- Give up a rule for a later one, and say so. One item at a time agrees with replacing. -/
def chooseRule (name : Bytes) (old : Option (Rule × Char)) (new : Rule × Char) :
    Shell (Option (Rule × Char)) := do
  match old, new with
  | some (.mark _, _), (.count 1, _) => return old
  | some (a, l), (b, l') =>
    let same := match a, b with
      | .mark _, .mark _ | .lines _, .lines _ | .count _, .count _ => true
      | _, _ => false
    unless same do
      let (given, _) := a.names l
      let (_, kept) := b.names l'
      let kept := if kept = "L" then "-L" else "--" ++ kept
      utilityError name ("warning: options --" ++ given ++ " and " ++ kept
        ++ " are mutually exclusive, ignoring previous --" ++ given ++ " value").toList
    return some new
  | none, new => return some new

/-- How many bytes the arguments of a command take at the most if nothing else is said. -/
def usualSize : Nat := 131072

/-- Complain about options whose values are no numbers, or too small. The result is the first fault
that ends all. -/
def checkNumbers (name : Bytes) (a : Arguments) : Shell (Option Nat) := do
  let fault := a.options.find? fun (c, v) =>
    "LnsP".toList.contains c && (match Bytes.toInt? v with
      | none => true
      | some n => n < if c = 'P' then 0 else 1)
  match fault with
  | none => return none
  | some ('s', v) =>
    if (Bytes.toInt? v).isSome then
      utilityError name ("value ".toList ++ v ++ " for -s option should be >= 1".toList)
      return none
    else
      return some (← misused name ("invalid number \"".toList ++ v ++ "\" for -s option".toList) 1)
  | some (c, v) =>
    let text := if (Bytes.toInt? v).isSome then
        "value ".toList ++ v ++ " for -".toList ++ [c] ++ " option should be >= ".toList
          ++ [if c = 'P' then '0' else '1']
      else "invalid number \"".toList ++ v ++ "\" for -".toList ++ [c] ++ " option".toList
    return some (← misused name text 1)

/-- What became of the commands so far. -/
inductive Progress where
  | going (status : Nat)
  | over (status : Nat)

/-- Run a command; what comes of it for all. -/
def runOne (call : Caller) (name : Bytes) (shows : Bool) (input : Option Nat) (status : Nat)
    (command : List Bytes) : Shell Progress := do
  if shows then
    write 2 (Bytes.join [' '] (command.map Quoting.ifNeeded) ++ ['\n'])
  let program := command.headD []
  match ← Launching.obstacle? program with
  | some e => return .over (← Launching.cannotRun name program e)
  | none =>
    let (n, signal) ← keepingChannels do
      if input.isSome then lead 0 input
      inProcess (call program command.tail)
    match signal with
    | some n =>
      utilityError name (program ++ ": terminated by signal ".toList ++ Bytes.ofNat n)
      return .over 125
    | none =>
      if n = 255 then
        utilityError name (program ++ ": exited with status 255; aborting".toList)
        return .over 124
      return .going (if n = 0 then status else 123)

/-- Run commands until one of them ends all. -/
def runEach (call : Caller) (name : Bytes) (shows : Bool) (input : Option Nat) :
    Nat → List (List Bytes) → Shell Progress
  | status, [] => return .going status
  | status, c :: rest => do
    match ← runOne call name shows input status c with
    | .going status => runEach call name shows input status rest
    | ended => return ended

/-- The delimiter that options ask for. -/
def delimiterOf (a : Arguments) : Option (Except (DelimiterFault × Bytes) Char) :=
  match (a.options.reverse.find? fun o => o.1 == '0' || o.1 == 'd') with
  | some ('0', _) => some (.ok '\x00')
  | some (_, v) => some ((delimiter? v).mapError fun f => (f, v))
  | none => none

def DelimiterFault.message : DelimiterFault → Bytes → Bytes
  | .tooLong, v => "Invalid input delimiter specification ".toList ++ v
    ++ (": the delimiter must be either a single character or an escape sequence starting with "
      ++ "\\.").toList
  | .unknownEscape, v =>
    "Invalid escape sequence ".toList ++ v ++ " in input delimiter specification.".toList

/-- How a quotation mark is told that is not closed. -/
def unmatched (mark : Char) : Bytes :=
  ("unmatched " ++ (if mark = '"' then "double" else "single")
    ++ " quote; by default quotes are special to xargs unless you use the -0 option").toList

/-- Run the command on the items of a text. -/
def runOn (call : Caller) (name : Bytes) (a : Arguments) (input : Option Nat)
    (delimiter : Option Char) (rule : Option Rule) (text : Bytes) : Shell Nat := do
  let command := if a.operands.isEmpty then ["echo".toList] else a.operands
  let whole := match rule with
    | some (.mark _) => true
    | _ => false
  let (found, unclosed) := match delimiter with
    | some c => (itemsBetween c text, none)
    | none => items whole text
  let ending := ((a.options.filter fun o => (o.1 == 'E' || o.1 == 'e')).getLast?.map (·.2)).filter
    fun s => !s.isEmpty && delimiter.isNone
  let kept := found.takeWhile fun i => some i.text != ending
  let unclosed := if kept.length < found.length then none else unclosed
  let size := (((a.value? 's').bind Bytes.toNat?).filter (0 < ·)).getD usualSize
  let start := sumOf (command.map fun c => c.length + 1)
  let count := match rule with
    | some (.count n) => some n
    | _ => none
  let lines := match rule with
    | some (.lines n) => some n
    | _ => none
  let (calls, tooLong) : List (List Bytes) × Bool := match rule with
    | some (.mark mark) =>
      let filled (i : Item) : List Bytes := command.tail.map fun w => fill mark i.text w.length w
      (kept.map fun i => command.take 1 ++ filled i, false)
    | _ =>
      let (groups, tooLong) := batches ⟨count, lines, size⟩ start ⟨[], 0, start⟩ kept
      (groups.map (command ++ ·), tooLong)
  let fault := if tooLong || (!whole && start > size) then some "argument line too long".toList
    else unclosed.map unmatched
  match fault with
  | none =>
    let calls := if calls.isEmpty && !whole && !a.has 'r' then [command] else calls
    match ← runEach call name (a.has 't') input 0 calls with
    | .over status | .going status => return status
  | some message =>
    match ← runEach call name (a.has 't') input 0 calls.dropLast with
    | .over status => return status
    | .going _ =>
      utilityError name message
      let _ ← runEach call name (a.has 't') input 0 (calls.drop (calls.length - 1))
      return 1

def run (call : Caller) (name : Bytes) (a : Arguments) : Shell Nat := do
  if let some status ← checkNumbers name a then return status
  let rule ← a.options.foldlM (fun old (c, v) => do
    match ruleOf? c v with
    | some rule => chooseRule name old (rule, c)
    | none => pure old) (none : Option (Rule × Char))
  match delimiterOf a with
  | some (.error (fault, v)) =>
    utilityError name (fault.message v)
    return 1
  | delimiter =>
    let delimiter := delimiter.bind Except.toOption
    match a.value? 'a' with
    | none =>
      let text ← readInput
      let nothing ← newStream .null
      let rule := rule.map (·.1)
      let status ← runOn call name a (some nothing) delimiter rule (text.toOption.getD [])
      match text with
      | .ok _ => return status
      | .error e =>
        utilityError name ("error closing file".toList
          ++ (if (← streamOf? 0).isNone then ": ".toList ++ reasonText e else []))
        return 1
    | some path =>
      match ← readFile path with
      | .ok text => runOn call name a none delimiter (rule.map (·.1)) text
      | .error e =>
        utilityError name ("Cannot open input file ".toList ++ Quoting.plain path ++ ": ".toList
          ++ reasonText e)
        return 1

def xargs (call : Caller) : Utility := fun name args =>
  match readArguments forms false (args.length + 1) args with
  | .error fault => misused name fault.message 1
  | .ok a => run call name a

end SvgSkeleton.Shell.Batches

/-! ### `env` and `printenv` -/

namespace SvgSkeleton.Shell.Environment

/-- Show the variables that programs are given. -/
def showAll (ending : Char) : Shell Nat := do
  (← environment).forM fun (name, value) => write 1 (name ++ '=' :: value ++ [ending])
  return 0

def printenv : Utility := fun name args => do
  match readArguments [flag '0' ["null"]] false (args.length + 1) args with
  | .error fault => misused name fault.message 2
  | .ok a =>
    let ending := if a.has '0' then '\x00' else '\n'
    if a.operands.isEmpty then return ← showAll ending
    let entries ← environment
    forEach a.operands fun name => do
      match entries.lookup name with
      | some value =>
        write 1 (value ++ [ending])
        return true
      | none => return false

/-- Definitions in front of a command, and the command. -/
def definitions (args : List Bytes) : List (Bytes × Bytes) × List Bytes :=
  let isDefinition (a : Bytes) : Bool := a.contains '=' && a.head? != some '='
  let given := args.takeWhile isDefinition
  (given.map fun a =>
    let name := a.takeWhile (· != '=')
    (name, a.drop (name.length + 1)), args.drop given.length)

def forms : List OptionForm :=
  [flag 'i' ["ignore-environment"], setting 'u' ["unset"], flag '0' ["null"],
   flag 'v' ["debug"], setting 'C' ["chdir"], setting 'S' ["split-string"]]

/-- Give a program a variable, behind those that it is given already. -/
def give (name value : Bytes) : Shell Unit := do
  let known := (← environment).any (·.1 == name)
  setVariable name ⟨some value, true, false⟩
  unless known do modify fun m => { m with givenLast := m.givenLast ++ [name] }

/-- Take a variable from a program. -/
def take (name : Bytes) : Shell Unit := do
  unsetVariable name
  modify fun m => { m with givenLast := m.givenLast.filter (· != name) }

/-- Take all variables from a program. Where programs are found is remembered. -/
def takeAll : Shell Unit := modify fun m => { m with
  givenLast := []
  definitions := m.definitions.map fun e => (e.1, { e.2 with exported := false }) }

/-- The arguments with texts of several words taken apart. -/
def withWords (args : List Bytes) : List Bytes :=
  match args with
  | ['-', 'S'] :: text :: rest => (Batches.items false text).1.map (·.text) ++ rest
  | ('-' :: 'S' :: text) :: rest => (Batches.items false text).1.map (·.text) ++ rest
  | args => args

def env (call : Caller) : Utility := fun name args =>
  Launching.withCommand forms (fun name a => do
    let dashed := a.operands.head? = some ['-']
    let (given, command) := definitions (if dashed then a.operands.tail else a.operands)
    if dashed || a.has 'i' then takeAll
    let unset := a.options.filter (·.1 == 'u')
    match unset.find? fun o => o.2.isEmpty || o.2.contains '=' with
    | some (_, bad) =>
      utilityError name ("cannot unset ".toList ++ Quoting.plain bad
        ++ ": Invalid argument".toList)
      return 125
    | none =>
      unset.forM fun o => take o.2
      given.forM fun (x, v) => give x v
      if command.isEmpty then return ← showAll (if a.has '0' then '\x00' else '\n')
      match a.value? 'C' with
      | none => Launching.runFrom call name command
      | some path =>
        match ← target? path with
        | .ok (place, .folder _) =>
          modify fun m => { m with cwd := place }
          Launching.runFrom call name command
        | found =>
          let e := match found with
            | .error e => e
            | .ok _ => .notFolder
          utilityError name ("cannot change directory to ".toList ++ Quoting.plain path
            ++ ": ".toList ++ reasonText e)
          return 125) name (withWords args)

end SvgSkeleton.Shell.Environment
