import SvgSkeleton.Shell.Utility.Options

/-!
`getopt`: arguments put in such an order that a script can read them with ease: all options first,
each with its value, and the operands behind two dashes.
-/

namespace SvgSkeleton.Shell.Arrange

/-- What is done with operands that stand in front of options. -/
inductive Order where
  /-- They come behind all options. -/
  | mixed
  /-- They end the options. -/
  | strict
  /-- They stay where they are. -/
  | kept
  deriving DecidableEq

/-- What arguments are put in order by. -/
structure Plan where
  name : Bytes
  letters : List (Char × OptionValue)
  long : List (Bytes × OptionValue)
  order : Order
  /-- May long names stand behind one dash? -/
  oneDash : Bool
  quotes : Bool
  quiet : Bool

/-- The letters that a text writes, each with colons behind it for a value. -/
def lettersOf : Bytes → List (Char × OptionValue)
  | c :: ':' :: ':' :: s => (c, .possible) :: lettersOf s
  | c :: ':' :: s => (c, .needed) :: lettersOf s
  | c :: s => (c, .none) :: lettersOf s
  | [] => []

/-- The order that the first character of the letters means, and the letters. -/
def orderOf (s : Bytes) : Order × Bytes :=
  match s with
  | '+' :: s => (.strict, s)
  | '-' :: s => (.kept, s)
  | s => (.mixed, s)

/-- A long name with colons behind it for a value. -/
def longOf (s : Bytes) : Bytes × OptionValue :=
  let name := (s.reverse.dropWhile (· == ':')).reverse
  (name, match s.length - name.length with
    | 0 => .none
    | 1 => .needed
    | _ => .possible)

/-- The long names of a list. -/
def longNames (s : Bytes) : List (Bytes × OptionValue) :=
  ((Bytes.splitAt ',' (s.map fun c => if isSpaceByte c then ',' else c)).filter
    (!·.isEmpty)).map longOf

/-- A text within quotes of a shell. -/
def quoted (s : Bytes) : Bytes :=
  '\'' :: s.flatMap (fun c => if c = '\'' then "'\\''".toList else [c]) ++ ['\'']

/-- What comes of arguments: options with their values, operands, and complaints. -/
structure Result where
  options : List Bytes
  operands : List Bytes
  complaints : List Bytes

def Result.empty : Result := ⟨[], [], []⟩

namespace Plan

def valueText (p : Plan) (v : Bytes) : Bytes := if p.quotes then quoted v else v

/-- A result with an option in front, and its value. -/
def found (p : Plan) (option : Bytes) (value : Option Bytes) (r : Result) : Result :=
  { r with options := option :: (value.map p.valueText).toList ++ r.options }

def wrong (message : Bytes) (r : Result) : Result :=
  { r with complaints := message :: r.complaints }

/-- The long names that a word may mean; one that it is all of is the only one. -/
def candidates (p : Plan) (word : Bytes) : List (Bytes × OptionValue) :=
  match p.long.find? (·.1 == word) with
  | some e => [e]
  | none => p.long.filter fun e => word.isPrefixOf e.1

mutual

/-- Put arguments in order. -/
def arranged (p : Plan) : Nat → List Bytes → Result
  | 0, _ => .empty
  | _ + 1, [] => .empty
  | fuel + 1, arg :: rest =>
    match arg with
    | ['-', '-'] => { Result.empty with operands := rest }
    | '-' :: '-' :: word => p.longOption fuel (fun s => "--".toList ++ s) word rest
    | '-' :: c :: letters =>
      let word := c :: letters
      let asLong := p.oneDash && !(p.candidates (word.takeWhile (· != '='))).isEmpty
        && (!letters.isEmpty || (p.letters.lookup c).isNone)
      if asLong then p.longOption fuel (fun s => '-' :: s) word rest
      else p.letterOptions fuel word rest
    | operand =>
      match p.order with
      | .strict => { Result.empty with operands := operand :: rest }
      | .kept =>
        let r := p.arranged fuel rest
        { r with options := p.valueText operand :: r.options }
      | .mixed =>
        let r := p.arranged fuel rest
        { r with operands := operand :: r.operands }

/-- Read an option with a long name. -/
def longOption (p : Plan) : Nat → (Bytes → Bytes) → Bytes → List Bytes → Result
  | 0, _, _, _ => .empty
  | fuel + 1, shown, word, rest =>
    let name := word.takeWhile (· != '=')
    let value : Option Bytes :=
      if name.length < word.length then some (word.drop (name.length + 1)) else none
    match p.candidates name with
    | [] => wrong ("unrecognized option '".toList ++ shown word ++ ['\'']) (p.arranged fuel rest)
    | [(full, kind)] =>
      let option := "--".toList ++ full
      match kind, value, rest with
      | .none, some _, rest =>
        wrong ("option '".toList ++ shown full ++ "' doesn't allow an argument".toList)
          (p.arranged fuel rest)
      | .none, none, rest => p.found option none (p.arranged fuel rest)
      | .needed, none, [] =>
        wrong ("option '".toList ++ shown full ++ "' requires an argument".toList) .empty
      | .needed, none, v :: rest => p.found option (some v) (p.arranged fuel rest)
      | _, v, rest => p.found option (some (v.getD [])) (p.arranged fuel rest)
    | several =>
      wrong ("option '".toList ++ shown word ++ "' is ambiguous; possibilities:".toList
        ++ several.flatMap fun e => " '".toList ++ shown e.1 ++ ['\'']) (p.arranged fuel rest)

/-- Read options of letters. -/
def letterOptions (p : Plan) : Nat → Bytes → List Bytes → Result
  | 0, _, _ => .empty
  | fuel + 1, word, rest =>
    match word with
    | [] => p.arranged fuel rest
    | c :: more =>
      let option := ['-', c]
      match p.letters.lookup c, more, rest with
      | none, more, rest =>
        wrong ("invalid option -- '".toList ++ [c, '\'']) (p.letterOptions fuel more rest)
      | some .none, more, rest => p.found option none (p.letterOptions fuel more rest)
      | some .possible, more, rest => p.found option (some more) (p.arranged fuel rest)
      | some .needed, [], [] =>
        wrong ("option requires an argument -- '".toList ++ [c, '\'']) .empty
      | some .needed, [], v :: rest => p.found option (some v) (p.arranged fuel rest)
      | some .needed, more, rest => p.found option (some more) (p.arranged fuel rest)

end

/-- The arguments in order, as they are shown. -/
def text (p : Plan) (r : Result) : Bytes :=
  (r.options ++ "--".toList :: r.operands.map p.valueText).flatMap (' ' :: ·) ++ ['\n']

/-- Put arguments in order and show them; complaints about them make the status 1. -/
def run (p : Plan) (silent : Bool) (args : List Bytes) : Shell Nat := do
  let size := args.foldl (fun n a => n + a.length + 2) 2
  let r := p.arranged size args
  unless p.quiet do r.complaints.forM (utilityError p.name)
  unless silent do write 1 (p.text r)
  return if r.complaints.isEmpty then 0 else 1

end Plan

def forms : List OptionForm :=
  [flag 'a' ["alternative"], setting 'l' ["longoptions"], setting 'n' ["name"],
   setting 'o' ["options"], flag 'q' ["quiet"], flag 'Q' ["quiet-output"], setting 's' ["shell"],
   flag 'T' ["test"], flag 'u' ["unquoted"], flag 'V' ["version"]]

/-- The status that tells this program from older ones. -/
def testStatus : Nat := 4

/-- The status of a call without letters. -/
def missingStatus : Nat := 2

def missing (name : Bytes) : Shell Nat :=
  misused name "missing optstring argument".toList missingStatus

end Arrange

open Arrange in
def getopt : Utility := fun name args =>
  match args with
  | [] => missing name
  | ('-' :: _) :: _ =>
    match readArguments forms false (args.length + 1) args with
    | .error fault => do
      utilityError name fault.message
      tryHelp name
      return missingStatus
    | .ok a =>
      if a.has 'T' then return testStatus
      else if a.has 'V' then do
        say "getopt from util-linux 2.39.3\n"
        return 0
      else
        let plan (letters : Bytes) : Plan :=
          let (order, letters) := orderOf letters
          { name := (a.value? 'n').getD name, letters := lettersOf letters
            long := (a.options.filter (·.1 == 'l')).flatMap fun o => longNames o.2
            order := order, oneDash := a.has 'a', quotes := !a.has 'u', quiet := a.has 'q' }
        match a.value? 'o', a.operands with
        | some letters, rest => (plan letters).run (a.has 'Q') rest
        | none, letters :: rest => (plan letters).run (a.has 'Q') rest
        | none, [] => missing name
  | letters :: rest =>
    let (order, letters) := orderOf letters
    Plan.run ⟨name, lettersOf letters, [], order, false, false, false⟩ false
      (if rest.head? = some ['-', '-'] then rest.drop 1 else rest)

end SvgSkeleton.Shell
