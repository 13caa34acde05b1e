import SvgSkeleton.Shell.Utility.Options
import SvgSkeleton.Shell.Utility.Search.Expression

/-!
How the arguments of `find` are read: first options and the paths to begin with, then a condition.
Some tests ask about files at once.
-/

namespace SvgSkeleton.Shell.Search

/-! ### What is asked for -/

/-- Which links are followed. -/
inductive Following where
  | none
  | arguments
  | all
  deriving DecidableEq

/-- How the search goes on, besides the condition. -/
structure Settings where
  follows : Following
  /-- Does a folder come behind what is in it? -/
  depthFirst : Bool
  least : Option Nat
  most : Option Nat
  dialect : Regex.Dialect
  warns : Bool
  /-- How many commands have been read. -/
  commands : Nat
  /-- Has there been a test? -/
  tested : Option Bytes

def Settings.usual : Settings := ⟨.none, false, none, none, .mixed, false, 0, none⟩

/-- Reading a condition may fail with a message. -/
abbrev Reading := ExceptT Bytes (StateT Settings Shell)

def act {α : Type} (s : Shell α) : Reading α := fun settings => do return (.ok (← s), settings)

def misread {α : Type} (s : Bytes) : Reading α := throw s

/-! ### Values -/

/-- A number with a sign in front of it. -/
def bound? (s : Bytes) : Option Bound :=
  let (sign, digits) : Option Char × Bytes := match s with
    | '+' :: r => (some '+', r)
    | '-' :: r => (some '-', r)
    | r => (none, r)
  (Bytes.toNat? digits).map fun n => ⟨sign, n⟩

/-- A word between quotation marks, as complaints about words show it. -/
def marked (word : Bytes) : Bytes := '\x60' :: word ++ ['\'']

def badValue {α : Type} (word value : Bytes) : Reading α :=
  misread ("invalid argument ".toList ++ marked value ++ " to ".toList ++ marked word)

def boundOf (word value : Bytes) : Reading Bound :=
  match bound? value with
  | some b => return b
  | none => badValue word value

/-- A size with its unit. -/
def sizeOf (value : Bytes) : Reading Test := do
  let units : List (Char × Nat) :=
    [('b', 512), ('c', 1), ('w', 2), ('k', 1024), ('M', Nat.pow 1024 2), ('G', Nat.pow 1024 3)]
  let last := value.getLastD ' '
  let (digits, unit) ← match units.lookup last with
    | some unit => pure (value.dropLast, unit)
    | none =>
      if last.isDigit then pure (value, 512)
      else misread ("invalid -size type ".toList ++ marked [last])
  match bound? digits with
  | some b => return .size b unit
  | none => misread ("Invalid argument ".toList ++ marked value ++ " to -size".toList)

/-- The letters of kinds of files. -/
def kindLetters : List Char := "bcdfplsD".toList

/-- The kinds that a list of letters names. -/
def kindsOf (word : Bytes) : Bytes → Reading (List Char)
  | [] => misread ("Last file type in list argument to ".toList ++ word
      ++ " is missing, i.e., list is ending on: ','".toList)
  | c :: r => do
    if !kindLetters.contains c then
      misread ("Unknown argument to ".toList ++ word ++ ": ".toList ++ [c])
    match r with
    | [] => return [c]
    | ',' :: r => return c :: (← kindsOf word r)
    | _ => misread ("Must separate multiple arguments to ".toList ++ word
        ++ " using: ','".toList)

/-- The permissions that a value asks for. -/
def permissionsOf (value : Bytes) : Reading Test := do
  let (how, text) : Agreement × Bytes := match value with
    | '-' :: r => (.all, r)
    | '/' :: r => (.one, r)
    | r => (.exact, r)
  match Mode.change? text false 0 0 with
  | some bits => return .permissions how bits
  | none => misread ("invalid mode ".toList ++ quoted value)

/-- The ways to write expressions. -/
def dialects : List (String × Regex.Dialect) :=
  [("findutils-default", .mixed), ("ed", .basic), ("emacs", .mixed), ("gnu-awk", .extended),
   ("grep", .basic), ("posix-awk", .extended), ("awk", .extended), ("posix-basic", .basic),
   ("posix-egrep", .extended), ("egrep", .extended), ("posix-extended", .extended),
   ("posix-minimal-basic", .basic), ("sed", .basic)]

def dialectOf (value : Bytes) : Reading Regex.Dialect :=
  match dialects.lookup (String.ofList value) with
  | some d => return d
  | none => misread ("Unknown regular expression type ".toList ++ quoted value
      ++ "; valid types are ".toList
      ++ Bytes.join ", ".toList (dialects.map fun d => quoted d.1.toList) ++ ['.'])

def expressionOf (ignoreCase : Bool) (value : Bytes) : Reading Test := do
  match Regex.Posix.matcher (← get).dialect ignoreCase value with
  | .ok m => return .expression m
  | .error f => misread ("failed to compile regular expression ".toList ++ quoted value
      ++ ": ".toList ++ f.message.toList)

/-- The place that a path leads to and the time at which it was changed. -/
def factsOf (path : Bytes) : Reading (Place × Int) := do
  match ← act (target? path) with
  | .ok (place, _) => return (place, changedAt (← act get) place)
  | .error e => misread (quoted path ++ ": ".toList ++ reasonText e)

def depthOf (word value : Bytes) : Reading Nat :=
  match Bytes.toNat? value with
  | some n => return n
  | none => misread ("Expected a positive decimal integer argument to ".toList ++ word
      ++ ", but got ".toList ++ quoted value)

/-- Who is known: only one user, with a group of the same name. -/
def ownerOf (what : String) (value : Bytes) : Reading Test :=
  match Bytes.toNat? value with
  | some n => return .always (n == 0)
  | none =>
    if value = "root".toList then return .always true
    else misread (quoted value ++ (" is not the name of " ++ what).toList)

/-- The moment that a text writes, in milliseconds. -/
def timeOf (value : Bytes) : Reading Int := do
  let now := now (← act get)
  let moment : Calendar.Moment :=
    .ofSeconds (now.fdiv 1000) ((now % 1000).toNat * 1000000)
  match Calendar.read? moment value with
  | some (seconds, nano) => return seconds * 1000 + (nano / 1000000 : Nat)
  | none => misread ("I cannot figure out how to interpret ".toList ++ quoted value
      ++ " as a date or time".toList)

/-! ### Commands -/

/-- Does an argument hold the mark for a path? -/
def hasMark : Bytes → Bool
  | '\x7b' :: '\x7d' :: _ => true
  | _ :: r => hasMark r
  | [] => false

/-- The arguments up to the end of a command, and those behind it. The flag says that paths are
gathered for the command. -/
def commandOf : List Bytes → List Bytes → Option (List Bytes × Bool × List Bytes)
  | _, [] => none
  | taken, [';'] :: rest => some (taken.reverse, false, rest)
  | taken, ['+'] :: rest =>
    if taken.head? = some ['\x7b', '\x7d'] then some (taken.reverse, true, rest)
    else commandOf (['+'] :: taken) rest
  | taken, a :: rest => commandOf (a :: taken) rest

/-- Read the command of an action. -/
def actionOf (word : Bytes) (inFolder asks : Bool) (args : List Bytes) :
    Reading (Test × List Bytes) := do
  match commandOf [] args with
  | none => misread ("missing argument to ".toList ++ marked word)
  | some ([], _, _) => badValue word [';']
  | some (command, gathers, rest) =>
    if gathers && 1 < (command.filter hasMark).length then
      misread ("Only one instance of \x7b\x7d is supported with ".toList ++ word ++ " ... +".toList)
    let number := (← get).commands
    modify fun s => { s with commands := number + 1 }
    return (.run ⟨number, if gathers then command.dropLast else command, gathers, inFolder, asks⟩,
      rest)

/-! ### Words -/

/-- Say something about the format of an action, and read it. -/
def formatOf (name value : Bytes) : Reading (List Piece) := do
  let (found, notes) := pieces (value.length + 1) value
  notes.forM fun note => act (utilityError name note)
  return found

/-- Make an empty file for an action to write to. -/
def targetOf (path : Bytes) : Reading Target := do
  match ← act (putFile path false []) with
  | .ok () => return some path
  | .error e => misread (quoted path ++ ": ".toList ++ reasonText e)

/-- Options that hold for all of the search, wherever they stand. -/
def isGlobal (word : String) : Bool :=
  ["-maxdepth", "-mindepth", "-depth", "-d", "-mount", "-xdev", "-noleaf",
   "-ignore_readdir_race", "-noignore_readdir_race", "-files0-from"].contains word

/-- The format in which files are listed. -/
def listing : Bytes :=
  "%9i %6k %M %3n %-8u %-8g %8s %Tb %Te %TH:%TM %p\\n".toList

/-- The test that a word without a value means. -/
def plainTest? (word : String) : Option (Reading Test) :=
  let yes : Test := .always true
  match word with
  | "-true" | "-daystart" | "-mount" | "-xdev" | "-noleaf" | "-ignore_readdir_race"
  | "-noignore_readdir_race" | "-readable" | "-writable" => some (pure yes)
  | "-false" | "-nouser" | "-nogroup" => some (pure (.always false))
  | "-warn" => some do
    modify fun s => { s with warns := true }
    return yes
  | "-nowarn" => some do
    modify fun s => { s with warns := false }
    return yes
  | "-depth" | "-d" => some do
    modify fun s => { s with depthFirst := true }
    return yes
  | "-follow" => some do
    modify fun s => { s with follows := .all }
    return yes
  | "-empty" => some (pure .empty)
  | "-executable" => some (pure .runs)
  | "-prune" => some (pure .prune)
  | "-quit" => some (pure .quit)
  | "-print" => some (pure (.print '\n' none))
  | "-ls" => some (pure (.format (pieces (listing.length + 1) listing).1 none))
  | "-print0" => some (pure (.print '\x00' none))
  | "-delete" => some do
    modify fun s => { s with depthFirst := true }
    return .delete
  | _ => none

/-- The test that a word with a value means. -/
def valuedTest? (name : Bytes) (word : String) (value : Bytes) : Option (Reading Test) :=
  let w := word.toList
  let yes : Test := .always true
  match word with
  | "-name" => some (pure (.name false value))
  | "-iname" => some (pure (.name true value))
  | "-path" | "-wholename" => some (pure (.path false value))
  | "-ipath" | "-iwholename" => some (pure (.path true value))
  | "-lname" => some (pure (.linkText false value))
  | "-ilname" => some (pure (.linkText true value))
  | "-regex" => some (expressionOf false value)
  | "-iregex" => some (expressionOf true value)
  | "-regextype" => some do
    let d ← dialectOf value
    modify fun s => { s with dialect := d }
    return yes
  | "-type" => some (return .kind (← kindsOf w value))
  | "-xtype" => some (return .targetKind (← kindsOf w value))
  | "-size" => some (sizeOf value)
  | "-maxdepth" => some do
    let n ← depthOf w value
    modify fun s => { s with most := some n }
    return yes
  | "-mindepth" => some do
    let n ← depthOf w value
    modify fun s => { s with least := some n }
    return yes
  | "-newer" | "-anewer" | "-cnewer" | "-newermm" | "-newercm" | "-neweram" =>
    some (return .newer (← factsOf value).2)
  | "-newermt" | "-newerct" | "-newerat" => some (return .newer (← timeOf value))
  | "-mtime" | "-atime" | "-ctime" => some (return .age (← boundOf w value) 86400000 true)
  | "-mmin" | "-amin" | "-cmin" => some (return .age (← boundOf w value) 60000 false)
  | "-perm" => some (permissionsOf value)
  | "-links" => some (return .links (← boundOf w value))
  | "-samefile" => some (return .same (← factsOf value).1)
  | "-user" => some (ownerOf "a known user" value)
  | "-group" => some (ownerOf "an existing group" value)
  | "-uid" | "-gid" => some (return .always ((← boundOf w value).holds 0))
  | "-inum" | "-used" => some do
    let _ ← boundOf w value
    return .always false
  | "-fstype" => some (pure (.always false))
  | "-printf" => some (return .format (← formatOf name value) none)
  | "-fprint" => some (return .print '\n' (← targetOf value))
  | "-fprint0" => some (return .print '\x00' (← targetOf value))
  | _ => none

/-- The words that take a value. -/
def isValued (word : String) : Bool := (valuedTest? [] word []).isSome

/-- Note a test, and warn about an option that stands behind one. -/
def noteWord (name : Bytes) (word : String) : Reading Unit := do
  let s ← get
  if isGlobal word then
    if let (true, some test) := (s.warns, s.tested) then
      act (utilityError name (("warning: you have specified the global option " ++ word
        ++ " after the argument " ++ String.ofList test
        ++ ", but global options are not positional, i.e., " ++ word
        ++ " affects tests specified before it as well as those specified after it.  "
        ++ "Please specify global options before other arguments.").toList))
  else if !(["-warn", "-nowarn", "-daystart", "-follow", "-regextype"].contains word) then
    set { s with tested := s.tested.or (some word.toList) }

/-- Read the words of a condition. The word before is given as well. -/
def tokensOf (name : Bytes) : Nat → Bytes → List Bytes → Reading (List Token)
  | 0, _, _ => return []
  | _ + 1, _, [] => return []
  | fuel + 1, before, arg :: rest => do
    let word := String.ofList arg
    let on (t : Token) (rest : List Bytes) : Reading (List Token) := do
      return t :: (← tokensOf name fuel arg rest)
    let test (t : Test) (rest : List Bytes) : Reading (List Token) := do
      noteWord name word
      on (.test t) rest
    match word with
    | "(" => on .open rest
    | ")" => on .close rest
    | "," => on .comma rest
    | "!" | "-not" => on (.no arg) rest
    | "-a" | "-and" => on (.and arg) rest
    | "-o" | "-or" => on (.or arg) rest
    | "-exec" | "-execdir" | "-ok" | "-okdir" =>
      let (t, rest) ← actionOf arg (word == "-execdir" || word == "-okdir")
        (word == "-ok" || word == "-okdir") rest
      test t rest
    | "-fprintf" =>
      match rest with
      | path :: format :: rest =>
        let target ← targetOf path
        test (.format (← formatOf name format) target) rest
      | _ => misread ("missing argument to ".toList ++ marked arg)
    | _ =>
      match plainTest? word, isValued word, rest with
      | some t, _, rest => test (← t) rest
      | none, true, value :: rest =>
        match valuedTest? name word value with
        | some t => test (← t) rest
        | none => on .comma rest
      | none, true, [] => misread ("missing argument to ".toList ++ marked arg)
      | none, false, _ =>
        if arg.head? = some '-' && 1 < arg.length then
          misread ("unknown predicate ".toList ++ marked arg)
        else
          let isThere := (← act <| entry? arg).toOption.isSome
          let guess := if isValued (String.ofList before) && isThere
            then '\n' :: name ++ ": possible unquoted pattern after predicate ".toList
              ++ marked before ++ ['?'] else []
          misread ("paths must precede expression: ".toList ++ marked arg ++ guess)

/-- Does an argument begin the condition? -/
def beginsCondition (arg : Bytes) : Bool :=
  (arg.head? = some '-' && 1 < arg.length) || arg = ['('] || arg = ['!']

/-- Read the options in front of the paths. -/
def readFollowing : Following → List Bytes → Following × List Bytes
  | _, ['-', 'P'] :: rest => readFollowing .none rest
  | _, ['-', 'H'] :: rest => readFollowing .arguments rest
  | _, ['-', 'L'] :: rest => readFollowing .all rest
  | f, ['-', 'D'] :: _ :: rest => readFollowing f rest
  | f, ['-', '-'] :: rest => (f, rest)
  | f, args =>
    match args with
    | ('-' :: 'O' :: _) :: rest => readFollowing f rest
    | args => (f, args)

end SvgSkeleton.Shell.Search
