import SvgSkeleton.Shell.Bytes
import SvgSkeleton.Shell.Machine

/-!
What all utilities share: how they show names, read their options and reach their inputs.
-/

/-! ### Quotation

Texts between quotation marks, as utilities show names in their messages: so that a shell would read
them back, or with escapes behind backslashes.
-/

namespace SvgSkeleton.Shell.Quoting

/-- Is the byte one that is shown as it is? -/
def isPrintable (c : Char) : Bool := 0x20 ≤ c.toNat && c.toNat ≤ 0x7E

/-- The escape for a byte that is not shown as it is. -/
def escape (c : Char) : Bytes :=
  match c.toNat with
  | 7 => ['\\', 'a']
  | 8 => ['\\', 'b']
  | 9 => ['\\', 't']
  | 10 => ['\\', 'n']
  | 11 => ['\\', 'v']
  | 12 => ['\\', 'f']
  | 13 => ['\\', 'r']
  | n =>
    let ds := Nat.toDigits 8 n
    '\\' :: List.replicate (3 - ds.length) '0' ++ ds

/-- The characters that mean something to a shell wherever they stand. -/
def special : Bytes := " !\"$&'()*;<=>?[\\^\x60|".toList

/-- Does a text have to stand between quotation marks for a shell to read it? -/
def isNeeded (s : Bytes) : Bool :=
  s.isEmpty || s.any (fun c => special.contains c || !isPrintable c)
    || s.head?.any (fun c => c == '#' || c == '~') || s = ['\x7b'] || s = ['}']

/-- May the text stand between double quotation marks as it is? -/
def fitsDouble (s : Bytes) : Bool :=
  s.zipIdx.all fun (c, i) =>
    c.isAlphanum || "%+,-./:]_ '".toList.contains c || (i == 0 && (c == '#' || c == '~'))

/-- The inside of single quotation marks. The flag says that an escape stands before. -/
def inside : Bool → Bytes → Bytes
  | _, [] => []
  | escaped, c :: r =>
    if !isPrintable c then
      (if escaped then [] else "'$'".toList) ++ escape c ++ inside true r
    else if c = '\'' then "'\\''".toList ++ inside false r
    else (if escaped then "''".toList else []) ++ c :: inside false r

/-- A text as a shell reads it, between quotation marks. -/
def always (s : Bytes) : Bytes :=
  if s.contains '\'' && fitsDouble s then ['"'] ++ s ++ ['"']
  else ['\''] ++ inside false s ++ ['\'']

/-- A text as a shell reads it, between quotation marks if it needs them. -/
def ifNeeded (s : Bytes) : Bytes := if isNeeded s then always s else s

/-- A text between single quotation marks, with escapes for what is not shown as it is. -/
def plain (s : Bytes) : Bytes :=
  let shown := s.flatMap fun c =>
    if c = '\'' || c = '\\' then ['\\', c] else if isPrintable c then [c] else escape c
  ['\''] ++ shown ++ ['\'']

end SvgSkeleton.Shell.Quoting

/-! ### Options

Letters behind a dash, some of them with a value, and long names behind two dashes. What is no
option is an operand.
-/

namespace SvgSkeleton.Shell

/-- A utility is called by a name with arguments; its result is its status. -/
abbrev Utility := Bytes → List Bytes → Shell Nat

/-- Does an option have a value? -/
inductive OptionValue where
  | none
  | needed
  /-- It has one if one is written with it. -/
  | possible
  deriving DecidableEq

/-- A letter that is an option, and the long names that mean the same. Options that have only long
names go by a letter that is no byte. -/
structure OptionForm where
  letter : Char
  value : OptionValue
  names : List String

/-- An option without a value. -/
def flag (letter : Char) (names : List String) : OptionForm := ⟨letter, .none, names⟩

/-- An option with a value. -/
def setting (letter : Char) (names : List String) : OptionForm := ⟨letter, .needed, names⟩

/-- An option that may have a value. -/
def variant (letter : Char) (names : List String) : OptionForm := ⟨letter, .possible, names⟩

/-- The options and the operands of a call. -/
structure Arguments where
  options : List (Char × Bytes)
  operands : List Bytes

namespace Arguments

def has (a : Arguments) (letter : Char) : Bool := a.options.any (·.1 == letter)

/-- The value of an option; a later one counts. -/
def value? (a : Arguments) (letter : Char) : Option Bytes :=
  a.options.reverse.lookup letter

/-- The last of some options that has been given. -/
def last? (a : Arguments) (letters : String) : Option Char :=
  (a.options.reverse.find? fun o => letters.toList.contains o.1).map (·.1)

end Arguments

/-- What is wrong with options. -/
inductive OptionFault where
  | unknownLetter (c : Char)
  | unknownName (arg : Bytes)
  | missingValue (c : Char)
  | missingNamed (name : String)
  | extraValue (name : String)
  | ambiguous (arg : Bytes) (names : List String)
  deriving DecidableEq

def OptionFault.message : OptionFault → Bytes
  | .unknownLetter c => "invalid option -- '".toList ++ [c, '\'']
  | .unknownName arg => "unrecognized option '".toList ++ arg ++ ['\'']
  | .missingValue c => "option requires an argument -- '".toList ++ [c, '\'']
  | .missingNamed name => ("option '--" ++ name ++ "' requires an argument").toList
  | .extraValue name => ("option '--" ++ name ++ "' doesn't allow an argument").toList
  | .ambiguous arg names =>
    "option '".toList ++ arg ++ "' is ambiguous; possibilities:".toList
      ++ names.flatMap fun n => (" '--" ++ n ++ "'").toList

/-- Options without a value. -/
def switches (letters : String) : List OptionForm := letters.toList.map fun c => flag c []

/-- Options with a value. -/
def settings (letters : String) : List OptionForm := letters.toList.map fun c => setting c []

/-- The options in an argument of letters; a value that is not in it is the first of the arguments
that follow. -/
def readLetters (forms : List OptionForm) : Bytes → List Bytes →
    Except OptionFault (List (Char × Bytes) × List Bytes)
  | [], rest => .ok ([], rest)
  | c :: r, rest =>
    match forms.find? (·.letter == c) with
    | none => .error (.unknownLetter c)
    | some form =>
      match form.value with
      | .needed =>
        match r, rest with
        | [], [] => .error (.missingValue c)
        | [], v :: rest => .ok ([(c, v)], rest)
        | r, rest => .ok ([(c, r)], rest)
      | .possible => .ok ([(c, r)], rest)
      | .none => do
        let (options, rest) ← readLetters forms r rest
        return ((c, []) :: options, rest)

/-- The option that a long name means, which may be shortened, and its full name. -/
def findName (forms : List OptionForm) (arg : Bytes) (name : String) :
    Except OptionFault (OptionForm × String) :=
  let exact := forms.findSome? fun f => if f.names.contains name then some (f, name) else none
  let begun := forms.flatMap fun f =>
    (f.names.filter fun n => name.toList.isPrefixOf n.toList).map fun n => (f, n)
  match exact, begun with
  | some found, _ => .ok found
  | none, [] => .error (.unknownName arg)
  | none, first :: others =>
    if others.all (·.1.letter == first.1.letter) then .ok first
    else .error (.ambiguous (('-' :: '-' :: name.toList)) (begun.map (·.2)))

/-- Read options. Where `mixed`, options may follow operands. -/
def readArguments (forms : List OptionForm) (mixed : Bool) :
    Nat → List Bytes → Except OptionFault Arguments
  | 0, args => .ok ⟨[], args⟩
  | fuel + 1, args =>
    match args with
    | [] => .ok ⟨[], []⟩
    | ['-', '-'] :: rest => .ok ⟨[], rest⟩
    | ('-' :: '-' :: long) :: rest => do
      let name := String.ofList (long.takeWhile (· != '='))
      let value : Option Bytes :=
        if long.contains '=' then some (long.drop (name.length + 1)) else none
      let (form, full) ← findName forms ('-' :: '-' :: long) name
      let (value, rest) ← match form.value, value, rest with
        | .none, some _, _ => .error (.extraValue full)
        | .none, none, rest | .possible, none, rest => .ok ([], rest)
        | _, some v, rest => .ok (v, rest)
        | .needed, none, v :: rest => .ok (v, rest)
        | .needed, none, [] => .error (.missingNamed full)
      let a ← readArguments forms mixed fuel rest
      return { a with options := (form.letter, value) :: a.options }
    | ('-' :: c :: letters) :: rest => do
      let (options, rest) ← readLetters forms (c :: letters) rest
      let a ← readArguments forms mixed fuel rest
      return { a with options := options ++ a.options }
    | operand :: rest => do
      if mixed then
        let a ← readArguments forms mixed fuel rest
        return { a with operands := operand :: a.operands }
      else .ok ⟨[], args⟩

/-- A complaint of a utility about itself. -/
def utilityError (name : Bytes) (s : Bytes) : Shell Unit :=
  write 2 (name ++ ": ".toList ++ s ++ ['\n'])

/-- Say where help is found. -/
def tryHelp (name : Bytes) : Shell Unit :=
  write 2 ("Try '".toList ++ name ++ " --help' for more information.\n".toList)

/-- Refuse to work; the second line says where help is found. -/
def misused (name : Bytes) (s : Bytes) (status : Nat) : Shell Nat := do
  utilityError name s
  tryHelp name
  return status

/-- Refuse to work; both lines begin with the name. The status is 2. -/
def misusedBy (name : Bytes) (s : Bytes) : Shell Nat := do
  utilityError name s
  utilityError name ("Try '".toList ++ name ++ " --help' for more information.".toList)
  return 2

/-- A utility that works on options and operands, with its status for options that it does not
know. -/
def withOptionsElse (status : Nat) (forms : List OptionForm)
    (act : Bytes → Arguments → Shell Nat) : Utility :=
  fun name args =>
    match readArguments forms true (args.length + 1) args with
    | .error fault => misused name fault.message status
    | .ok a => act name a

/-- A utility that works on options and operands. -/
def withOptions : List OptionForm → (Bytes → Arguments → Shell Nat) → Utility := withOptionsElse 1

/-- The words for a failed access. -/
def reasonText (e : OsError) : Bytes := Bytes.ofText e.text

/-- Complain about a file. -/
def fileError (name path : Bytes) (e : OsError) : Shell Unit :=
  utilityError name (Quoting.ifNeeded path ++ ": ".toList ++ reasonText e)

/-- Is the input a folder? It can be opened, but not read. -/
def inputIsFolder : Shell Bool := do
  match ← streamOf? 0 with
  | some i =>
    let m ← get
    match m.streams[i]? with
    | some (.file place _ _) => return m.tree.isFolderAt place
    | _ => return false
  | none => return false

/-- Why the input cannot be read, if it cannot. -/
def inputFault? : Shell (Option OsError) := do
  if (← streamOf? 0).isNone then modify fun m => { m with unread := true }
  if !(← canRead 0) then return some .badChannel
  else if ← inputIsFolder then return some .isFolder
  else return none

/-- What the input holds. -/
def readInput : Shell (Except OsError Bytes) := do
  match ← inputFault? with
  | some e => return .error e
  | none => return .ok (← readAll 0)

/-- What an operand of a utility holds; a dash is the input. -/
def readOperand (path : Bytes) : Shell (Except OsError Bytes) :=
  if path = ['-'] then readInput else readFile path

/-- Is it reading that fails, and not opening? -/
def failsLate (e : OsError) : Bool := e = .isFolder || e = .badChannel

/-- Do something with each operand that can be read, or with the input if there is none. The
status is 1 if one of them cannot be read. -/
def forOperands (name : Bytes) (operands : List Bytes) (act : Bytes → Bytes → Shell Unit) :
    Shell Nat := do
  let operands := if operands.isEmpty then [['-']] else operands
  let outcomes ← operands.mapM fun path => do
    match ← readOperand path with
    | .ok content =>
      act path content
      return true
    | .error e =>
      fileError name path e
      return false
  return if outcomes.all id then 0 else 1

/-- The contents of all operands, one behind the other, and the status. -/
def gather (name : Bytes) (operands : List Bytes) : Shell (Bytes × Nat) := do
  let operands := if operands.isEmpty then [['-']] else operands
  let parts ← operands.mapM fun path => do
    match ← readOperand path with
    | .ok content => return (content, true)
    | .error e =>
      fileError name path e
      return ([], false)
  return ((parts.map (·.1)).flatten, if parts.all (·.2) then 0 else 1)

end SvgSkeleton.Shell

/-! ### Places and inputs

What utilities read and write besides whole operands: the place of a file that a channel is led to,
an input that is read only in part, and the entries of folders.
-/

namespace SvgSkeleton.Shell

/-- The file that a channel is led to, and how far it has been read or written. -/
def placeOf? (channel : Nat) : Shell (Option (Place × Nat)) := do
  match ← streamOf? channel with
  | none => return none
  | some i =>
    match (← get).streams[i]? with
    | some (.file place offset _) => return some (place, offset)
    | _ => return none

/-- Is a path led to the file that the output is led to? -/
def isOutput (path : Bytes) : Shell Bool := do
  let output := (← placeOf? 1).map (·.1)
  let place ← if path = ['-'] then pure ((← placeOf? 0).map (·.1)) else do
    match ← locate path with
    | .ok place => pure (some place)
    | .error _ => pure none
  return output.isSome && output == place

/-- Give all of the input to a reader that tells how much of it it has used. Of a file no more is
taken; else whole blocks are. -/
def takeUsed {α : Type} (block : Nat) (read : Bytes → α × Nat) : Shell α := do
  let isFile := (← placeOf? 0).isSome
  takeFrom 0 fun s =>
    let (value, n) := read s
    (value, if isFile then n else min s.length ((n + block - 1) / block * block))

/-- Pieces of a text that each end in a character, without it; the last one may lack it. -/
def piecesAt (ending : Char) (s : Bytes) : List Bytes :=
  let pieces := Bytes.splitAt ending s
  if pieces.getLast? = some [] then pieces.dropLast else pieces

/-- Write a text to a file, from its beginning on or behind its end. -/
def putFile (path : Bytes) (append : Bool) (content : Bytes) : Shell (Except OsError Unit) := do
  match ← openToWrite path append append with
  | .ok i =>
    let spare := 1000
    lead spare (some i)
    write spare content
    lead spare none
    return .ok ()
  | .error e => return .error e

/-- A way to run a program that is found under a name. -/
abbrev Caller := Bytes → List Bytes → Shell Nat

/-- Run a program on a text; what it writes, and its status. -/
def outputOn (input : Bytes) (act : Shell Nat) : Shell (Bytes × Nat) := do
  let source ← newStream (.source input)
  let sink ← newStream (.sink [])
  let (status, _) ← keepingChannels do
    lead 0 (some source)
    lead 1 (some sink)
    inProcess act
  let out := match (← get).streams[sink]? with
    | some (.sink pieces) => collected pieces
    | _ => []
  setStream sink .null
  setStream source .null
  return (out, status)

/-- The entries of a folder, the latest first. -/
def entriesOf : FileTree → List (Bytes × FileTree)
  | .folder entries => entries.reverse.map fun e => (Bytes.ofList e.1, e.2)
  | _ => []

end SvgSkeleton.Shell
