import SvgSkeleton.CommandLine.Flag
import SvgSkeleton.Text.Character

/-!
Reading the arguments of the command line. A flag is written `--name` or `-n`; its value is the next
argument, or follows `=`, or follows the letter directly. Letters may share one dash. A flag is
given at most once, except that `--define` and `--verbose` may be repeated; the help and the
version are asked for as soon as they are met. There are no arguments besides flags.
-/

namespace SvgSkeleton.CommandLine

/-- What is wrong with the arguments. -/
inductive Misuse where
  | unexpected (arg : String)
  | missingValue (flag : Flag)
  | unneededValue (flag : Flag) (value : String)
  | badValue (flag : Flag) (value : String)
  | repeated (flag : Flag)
  | missing (flags : List Flag)
  deriving DecidableEq, Repr

def Misuse.message : Misuse → String
  | .unexpected arg => "unexpected argument '" ++ arg ++ "' found"
  | .missingValue flag => "a value is required for '" ++ flag.shown ++ "' but none was supplied"
  | .unneededValue flag value =>
    "unexpected value '" ++ value ++ "' for '" ++ flag.shown ++ "' found; no more were expected"
  | .badValue flag value => "invalid value '" ++ value ++ "' for '" ++ flag.shown ++ "'"
  | .repeated flag => "the argument '" ++ flag.shown ++ "' cannot be used multiple times"
  | .missing flags =>
    "the following required arguments were not provided:"
      ++ String.join (flags.map fun flag => "\n  " ++ flag.shown)

/-- Why the arguments are not read to their end as a request to generate. -/
inductive Stop where
  | help
  | version
  | misuse (reason : Misuse)
  deriving DecidableEq, Repr

/-- What the arguments read so far say. -/
structure Given where
  folder : Option String
  out : Option String
  config : Option String
  definitions : List String
  fontsFolder : Option String
  templateCommand : Option String
  maxDepth : Option Nat
  watch : Bool
  verbosity : Nat
  stats : Bool
  debug : Bool
  deriving DecidableEq, Repr

def Given.nothing : Given :=
  ⟨none, none, none, [], none, none, none, false, 0, false, false⟩

/-- The highest verbosity that is counted. -/
def verbosityLimit : Nat := 255

/-- The natural number of 64 bits that ASCII digits write; a plus sign may stand before them. -/
def natural? (value : String) : Option Nat :=
  let digits := match value.toList with
    | '+' :: r => r
    | r => r
  if digits.isEmpty || !digits.all Char.isDigit then none
  else (some (Text.ofDigits 10 digits)).filter (· < 1 <<< 64)

/-- The value of a flag that may be given once. -/
def once {α : Type} (flag : Flag) (already : Option α) (value : α) : Except Stop (Option α) :=
  if already.isSome then .error (.misuse (.repeated flag)) else .ok (some value)

/-- A switch that may be given once. -/
def switch (flag : Flag) (already : Bool) : Except Stop Bool :=
  if already then .error (.misuse (.repeated flag)) else .ok true

/-- One more flag; the value of a flag that takes none does not count. -/
def Given.accept (g : Given) (flag : Flag) (value : String) : Except Stop Given := do
  match flag with
  | .folder => return { g with folder := ← once flag g.folder value }
  | .out => return { g with out := ← once flag g.out value }
  | .config => return { g with config := ← once flag g.config value }
  | .define => return { g with definitions := g.definitions ++ [value] }
  | .fontsFolder => return { g with fontsFolder := ← once flag g.fontsFolder value }
  | .templateCommand => return { g with templateCommand := ← once flag g.templateCommand value }
  | .maxDepth =>
    match natural? value with
    | some depth => return { g with maxDepth := ← once flag g.maxDepth depth }
    | none => .error (.misuse (.badValue flag value))
  | .watch => return { g with watch := ← switch flag g.watch }
  | .verbose => return { g with verbosity := min verbosityLimit (g.verbosity + 1) }
  | .stats => return { g with stats := ← switch flag g.stats }
  | .debug => return { g with debug := ← switch flag g.debug }
  | .help => .error .help
  | .version => .error .version

/-- What has been read, and what the next argument is: the value of `pending`, or after `--`
nothing that is expected. -/
structure Progress where
  given : Given
  pending : Option Flag
  closed : Bool
  deriving DecidableEq, Repr

namespace Progress

def init : Progress := ⟨.nothing, none, false⟩

/-- A flag with its value. -/
def accept (p : Progress) (flag : Flag) (value : List Char) : Except Stop Progress := do
  return { p with given := ← p.given.accept flag (String.ofList value), pending := none }

/-- A flag whose value is the next argument. -/
def await (p : Progress) (flag : Flag) : Progress := { p with pending := some flag }

/-- An argument from behind its two dashes. -/
def long (p : Progress) (arg : List Char) : Except Stop Progress :=
  let name := arg.takeWhile (· != '=')
  match Flag.ofLong? (String.ofList name), arg.drop name.length with
  | none, _ => .error (.misuse (.unexpected ("--" ++ String.ofList name)))
  | some flag, [] => if flag.takesValue then .ok (p.await flag) else p.accept flag []
  | some flag, _ :: value =>
    if flag.takesValue then p.accept flag value
    else .error (.misuse (.unneededValue flag (String.ofList value)))

/-- An argument from behind its dash: letters, of which the first that takes a value takes all
that follow it. -/
def short (p : Progress) : List Char → Except Stop Progress
  | [] => .ok p
  | c :: r =>
    match Flag.ofShort? c with
    | none => .error (.misuse (.unexpected (String.ofList ['-', c])))
    | some flag =>
      if flag.takesValue then
        match r with
        | [] => .ok (p.await flag)
        | '=' :: value => p.accept flag value
        | value => p.accept flag value
      else
        match p.accept flag [] with
        | .error stop => .error stop
        | .ok p => short p r

/-- One more argument. A dash by itself is a value. -/
def step (p : Progress) (arg : String) : Except Stop Progress :=
  if p.closed then .error (.misuse (.unexpected arg))
  else
    match p.pending, arg.toList with
    | some flag, '-' :: _ :: _ => .error (.misuse (.missingValue flag))
    | some flag, value => p.accept flag value
    | none, ['-', '-'] => .ok { p with closed := true }
    | none, '-' :: '-' :: r => p.long r
    | none, '-' :: c :: r => p.short (c :: r)
    | none, _ => .error (.misuse (.unexpected arg))

end Progress

/-- A request to generate a picture. -/
structure Request where
  folder : String
  out : String
  given : Given
  deriving DecidableEq, Repr

/-- The request that the arguments make, if they may end here. -/
def Progress.finish (p : Progress) : Except Stop Request :=
  match p.pending with
  | some flag => .error (.misuse (.missingValue flag))
  | none =>
    match p.given.folder, p.given.out with
    | some folder, some out => .ok ⟨folder, out, p.given⟩
    | none, none => .error (.misuse (.missing [.folder, .out]))
    | none, some _ => .error (.misuse (.missing [.folder]))
    | some _, none => .error (.misuse (.missing [.out]))

/-- The request that arguments make. -/
def parse (args : List String) : Except Stop Request := do
  (← args.foldlM Progress.step .init).finish

end SvgSkeleton.CommandLine
