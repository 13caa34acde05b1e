import SvgSkeleton.Shell.Utility.Awk.Evaluate
import SvgSkeleton.Shell.Utility.Awk.Reader
import SvgSkeleton.Shell.Utility.Path

/-!
`awk`: the arguments say what the program is and what it is given at first; it is read, and then
carried out.
-/

namespace SvgSkeleton.Shell.Awk

/-! ### Arguments -/

/-- What the arguments ask for. -/
structure Order where
  files : List Bytes
  /-- Assignments and field separators, in their order. -/
  settings : List Bytes
  separators : List Bytes
  /-- Options that mean nothing. -/
  vacuous : List Bytes
  rest : List Bytes

/-- What the arguments are good for besides a program. -/
inductive Request where
  | order (o : Order)
  | help
  | version
  | fault (message : Bytes)

/-- The names of further options, and what they ask for if that is not a way to work. -/
def longNames : List (String × Option Request) :=
  [("version", some .version), ("dump", none), ("help", some .help), ("interactive", none),
   ("exec", none), ("random", none), ("sprintf", none), ("posix_space", none),
   ("usage", some .help), ("compat", none), ("traditional", none), ("posix", none),
   ("re-interval", none), ("repetitions", none)]

/-- The option that a name or its front means. -/
def longName? (s : Bytes) : Option (String × Option Request) :=
  let name := (s.takeWhile (· != '=')).map Char.toLower
  if name.isEmpty then none else longNames.find? fun e => name.isPrefixOf e.1.toList

/-- Read the arguments. -/
def request : Nat → Order → List Bytes → Request
  | 0, o, _ => .order o
  | fuel + 1, o, args =>
    let again := request fuel
    /- An option with a value, which stands behind its letter or comes next. -/
    let valued (letter : Char) (value : Bytes) (rest : List Bytes)
        (go : Bytes → List Bytes → Request) : Request :=
      match value, rest with
      | [], [] => .fault ("option -".toList ++ letter :: " lacks argument".toList)
      | [], v :: rest => go v rest
      | v, rest => go v rest
    match args with
    | [] => .order { o with rest := [] }
    | ['-', '-'] :: rest => .order { o with rest := rest }
    | ('-' :: '-' :: name) :: rest =>
      match longName? name with
      | some (_, some r) => r
      | some _ => again o rest
      | none => .fault ("not an option: --".toList ++ name)
    | ('-' :: 'f' :: v) :: rest =>
      valued 'f' v rest fun v rest => again { o with files := o.files ++ [v] } rest
    | ('-' :: 'F' :: v) :: rest =>
      valued 'F' v rest fun v rest => again { o with separators := o.separators ++ [v] } rest
    | ('-' :: 'v' :: v) :: rest =>
      valued 'v' v rest fun v rest =>
        if isAssignment v then again { o with settings := o.settings ++ [v] } rest
        else .fault ("improper assignment: -v ".toList ++ v)
    | ('-' :: 'W' :: v) :: rest =>
      valued 'W' v rest fun v rest =>
        match longName? v with
        | some ("exec", none) =>
          match rest with
          | [] => .fault "option -W lacks argument".toList
          | file :: rest => .order { o with files := o.files ++ [file], rest := rest }
        | some (_, some r) => r
        | some _ => again o rest
        | none => again { o with vacuous := o.vacuous ++ [v] } rest
    | ('-' :: c :: v) :: _ => .fault ("not an option: -".toList ++ c :: v)
    | rest => .order { o with rest := rest }

/-- How the program is used. -/
def usage : String :=
  "Usage: mawk [Options] [Program] [file ...]\n\nProgram:\n"
    ++ "    The -f option value is the name of a file containing program text.\n"
    ++ "    If no -f option is given, a \"--\" ends option processing; the following\n"
    ++ "    parameters are the program text.\n\nOptions:\n"
    ++ "    -f program-file  Program  text is read from file instead of from the\n"
    ++ "                     command-line.  Multiple -f options are accepted.\n"
    ++ "    -F value         sets the field separator, FS, to value.\n"
    ++ "    -v var=value     assigns value to program variable var.\n"
    ++ "    --               unambiguous end of options.\n\n"
    ++ "    Implementation-specific options are prefixed with \"-W\".  They can be\n"
    ++ "    abbreviated:\n\n"
    ++ "    -W version       show version information and exit.\n"
    ++ "    -W compat        pre-POSIX 2001.\n"
    ++ "    -W dump          show assembler-like listing of program and exit.\n"
    ++ "    -W help          show this message and exit.\n"
    ++ "    -W interactive   set unbuffered output, line-buffered input.\n"
    ++ "    -W exec file     use file as program as well as last option.\n"
    ++ "    -W posix         stricter POSIX checking.\n"
    ++ "    -W random=number set initial random seed.\n"
    ++ "    -W sprintf=number adjust size of sprintf buffer.\n"
    ++ "    -W usage         show this message and exit.\n"

def versionLine : String := "mawk 1.3.4 20240123\n"

/-! ### At work -/

/-- The table of texts by their keys. -/
def tableWith (entries : List (Key × Bytes)) : Table :=
  entries.foldl (fun t (k, s) => t.set k (.given s)) .empty

/-- The values that variables have at first. -/
def firstValues : List (Nat × Value) :=
  [(Known.fieldCount, ofNat 0), (Known.recordCount, ofNat 0), (Known.fileRecordCount, ofNat 0),
   (Known.fieldSeparator, .text [' ']), (Known.outputSeparator, .text [' ']),
   (Known.outputEnd, .text ['\n']), (Known.recordSeparator, .text ['\n']),
   (Known.keySeparator, .text ['\x1c']), (Known.format, .text "%.6g".toList),
   (Known.outputFormat, .text "%.6g".toList)]

/-- The state in which a program begins. -/
def firstState (p : Program) (arguments : List Bytes) (environment : List (Bytes × Bytes)) :
    State :=
  let n := p.names.size
  let numbered := arguments.zipIdx.map fun (s, i) => (Key.number i, s)
  let values := ((Known.argumentCount, ofNat arguments.length) :: firstValues).foldl
    (fun vs (i, v) => vs.setIfInBounds i v) (Array.replicate n Value.none)
  let tables := ((Array.replicate n Table.empty).setIfInBounds Known.arguments (tableWith numbered))
    |>.setIfInBounds Known.environment
      (tableWith (environment.map fun (k, v) => (.text k, v)))
  { values := values, tables := tables, frame := ⟨#[], #[], #[]⟩, height := 0
    record := .text [], fields := some #[], within := Array.replicate p.rules.length false,
      input := none, position := 1, hasFile := false
    sources := [], goals := [], out := [], seed := ofNat 1, random := 1, status := 0 }

/-- Complain of something. -/
def complainAs (name message : Bytes) : Shell Unit :=
  write 2 (lastName name ++ ": ".toList ++ message ++ ['\n'])

/-- Do something; a failure is complained about, and its status is 2. -/
def guarded (c : Setting) (s : State) (act : Run Unit) : Shell State := do
  match ← act c s with
  | (.error (.fatal message), s) =>
    complainAs c.name message
    return { s with status := 2 }
  | (_, s) => return s

/-- Carry out a program. -/
def perform (c : Setting) (o : Order) (arguments : List Bytes) : Shell Nat := do
  let start := firstState c.program arguments (← environment)
  let s ← guarded c start do
    for s in o.settings do assignOutside s
    for s in o.separators do
      setValue Known.fieldSeparator (.given (Token.unescaped (s.length + 1) s))
    c.program.run
  let s ← guarded c s closeDown
  return s.status

/-- The text of a program in files. -/
def textIn? : List Bytes → Shell (Except (Bytes × OsError) Bytes)
  | [] => return .ok []
  | path :: rest => do
    match ← contentOf path with
    | .error e => return .error (path, e)
    | .ok text =>
      match ← textIn? rest with
      | .error e => return .error e
      | .ok more => return .ok (text ++ '\n' :: more)

def failing (name message : Bytes) : Shell Nat := do
  complainAs name message
  return 2

end Awk

def awk (call : Caller) : Utility := fun name args => do
  match Awk.request (args.length + 1) ⟨[], [], [], [], []⟩ args with
  | .help =>
    say Awk.usage
    return 0
  | .version =>
    say Awk.versionLine
    return 0
  | .fault message => Awk.failing name message
  | .order o =>
    o.vacuous.forM fun v =>
      Awk.complainAs name ("vacuous option: -W \"".toList ++ v ++ ['"'])
    let text ← match o.files, o.rest with
      | [], [] =>
        sayError Awk.usage
        return 0
      | [], text :: _ => pure (if text = ['-'] then [] else text)
      | files, _ => match ← Awk.textIn? files with
        | .ok text => pure text
        | .error (path, e) => return ← Awk.failing name (Awk.unreadable path e)
    match Awk.program? text with
    | .error messages =>
      messages.forM (Awk.complainAs name)
      return 2
    | .ok program =>
      let operands := if o.files.isEmpty then o.rest.drop 1 else o.rest
      Awk.perform ⟨name, call, program⟩ o (lastName name :: operands)

end SvgSkeleton.Shell
