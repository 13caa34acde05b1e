import SvgSkeleton.Shell.Utility.Interpreter.Evaluate
import SvgSkeleton.Shell.Utility.Interpreter.Known

/-!
The program `python3`: it carries out a script that stands among its arguments, in a file or on its
input. An exception that nothing is done about ends the script, and is told of; where there is
nothing that has the name that a script writes, so is a name that it may have meant.
-/

namespace SvgSkeleton.Shell

namespace Interpreter.Suggestion

/-- What it costs to leave out a letter, to put one in, or to take another one. -/
def moveCost : Nat := 2

/-- What it costs to take a letter for another one; the same one in another case is cheaper. -/
def changeCost (c d : Char) : Nat :=
  if c = d then 0 else if c.toLower = d.toLower then 1 else moveCost

/-- The costs of the front parts of a name, with a further letter of the other one. -/
def nextRow (c : Char) (name : List Char) (row : List Nat) (first : Nat) : List Nat :=
  match row with
  | [] => []
  | corner :: rest =>
    let (costs, _, _) := (name.zip rest).foldl
      (fun ((done, corner, left) : List Nat × Nat × Nat) (d, above) =>
        let cost := min (corner + changeCost c d) (min (above + moveCost) (left + moveCost))
        (cost :: done, above, cost)) ([], corner, first)
    first :: costs.reverse

/-- What it costs to make one name of another one. -/
def distance (a b : List Char) : Nat :=
  let start := (List.range (b.length + 1)).map (· * moveCost)
  let rows := a.foldl (fun ((row, n) : List Nat × Nat) c =>
    (nextRow c b row (n + moveCost), n + moveCost)) (start, 0)
  rows.1.getLast?.getD 0

/-- The name that is closest, if one is close enough. -/
def closest? (wrong : String) (names : List String) : Option String :=
  let w := wrong.toList
  let costs := (names.filter (· != wrong)).filterMap fun name =>
    let most := (w.length + name.length + 3) * moveCost / 6
    let cost := distance w name.toList
    if cost ≤ most then some (name, cost) else none
  (costs.foldl (fun best (name, cost) => match best with
    | some (_, least) => if cost < least then some (name, cost) else best
    | none => some (name, cost)) (none : Option (String × Nat))).map (·.1)

/-- The modules that may have been forgotten. -/
def modules : List String :=
  Library.moduleNames ++ ["random", "datetime", "pathlib", "shutil", "tempfile", "glob", "copy",
   "pprint", "textwrap", "struct", "socket", "threading", "logging", "argparse", "csv", "uuid",
   "decimal", "fractions", "statistics", "operator", "signal", "traceback", "types", "typing",
   "inspect", "urllib", "http", "html", "xml", "zlib", "gzip", "pickle", "sqlite3", "platform",
   "getpass", "locale", "unicodedata", "secrets", "heapq", "bisect", "enum", "dataclasses", "abc",
   "io", "errno", "ctypes", "asyncio", "select", "queue", "calendar", "contextlib", "warnings"]

/-- The name between the first quotes of a message, and the one between the last ones. -/
def quotedNames (message : List Char) : List (List Char) :=
  (Bytes.splitAt '\'' message).zipIdx.filterMap fun (s, i) => if i % 2 = 1 then some s else none

/-- What is said behind the message of an exception; the names are those in sight. -/
def behind (kind : String) (message : List Char) (names : List String) : List Char :=
  let hint (name : String) : List Char := ". Did you mean: '".toList ++ name.toList ++ "'?".toList
  match kind, quotedNames message with
  | "NameError", [wrong] =>
    let name := String.ofList wrong
    match closest? name names with
    | some s => hint s
    | none =>
      if modules.contains name then
        ". Did you forget to import '".toList ++ wrong ++ "'?".toList
      else []
  | "AttributeError", [_, wrong] => match closest? (String.ofList wrong) names with
    | some s => hint s
    | none => []
  | _, _ => []

end Interpreter.Suggestion

namespace Interpreter

/-! ### Complaints -/

/-- A place where an exception was raised, or came by. -/
def Frame.text (f : Frame) : List Char :=
  ("  File \"" ++ f.file ++ "\", line " ++ toString f.line ++ ", in " ++ f.name ++ "\n").toList
    ++ f.source.flatMap fun s => ("    " ++ s ++ "\n").toList

/-- Equal places in a row are shown three times. -/
def shownOften : Nat := 3

/-- Places in the order in which they are shown; many equal ones are counted. -/
def framesText : Option Frame → Nat → List Frame → List Char
  | _, n, [] => repeatedText n
  | last, n, f :: fs =>
    let same := last.any fun g => g.file == f.file && g.name == f.name && g.line == f.line
    let n' := if same then n + 1 else 1
    (if same then [] else repeatedText n)
      ++ (if n' ≤ shownOften then f.text else []) ++ framesText (some f) n' fs
where
  repeatedText (n : Nat) : List Char :=
    if n ≤ shownOften then []
    else
      ("  [Previous line repeated " ++ toString (n - shownOften) ++ " more time"
        ++ (if n - shownOften = 1 then "" else "s") ++ "]\n").toList

/-- The names that a value of a kind has parts by. -/
def partNames (h : Heap) (message : List Char) : List String :=
  match Suggestion.quotedNames message with
  | s :: _ =>
    match String.ofList s with
    | "str" => Known.methodNames h (.text [])
    | "bytes" => Known.methodNames h (.bytes [])
    | "list" => StoreMethod.listNames
    | "dict" => StoreMethod.dictNames
    | "set" => StoreMethod.setNames
    | "_io.TextIOWrapper" => StoreMethod.fileNames
    | m => (Library.constants m).map (·.1) ++ (Library.functions.lookup m).getD []
  | [] => []

/-- The names in sight. -/
def namesInSight (h : Heap) : List String :=
  let own := match h[Fixed.scope]? with
    | some (.scope names _ _) => (names.map (·.1)).reverse
    | _ => []
  own ++ Known.functionNames ++ Value.typeNames
    ++ (Value.faultKinds.map (·.1)).filter fun s => !s.toList.contains '.'

/-- What is told of an exception. -/
def faultReport (h : Heap) : Nat → Nat → List Char
  | 0, _ => []
  | fuel + 1, n =>
    match h[n]? with
    | some (.fault kind args trace context) =>
      let before := match context with
        | some m => faultReport h fuel m
            ++ "\nDuring handling of the above exception, another exception occurred:\n\n".toList
        | none => []
      let message := Value.faultText h kind args
      let names := if kind = "NameError" then namesInSight h else partNames h message
      let message := message ++ Suggestion.behind kind message names
      before ++ "Traceback (most recent call last):\n".toList ++ framesText none 0 trace.reverse
        ++ kind.toList ++ (if message.isEmpty then [] else ':' :: ' ' :: message) ++ ['\n']
    | _ => []

/-- What is told of a script that cannot be read. -/
def misreadReport (file : String) (script : List Char) (m : Misread) : List Char :=
  let before := script.take (script.length - m.left)
  let column := (before.reverse.takeWhile (· != '\n')).length
  let line := ((Bytes.splitAt '\n' script)[m.line - 1]?).getD []
  let body := line.dropWhile fun c => c == ' ' || c == '\t' || c == '\x0c'
  let margin := line.length - body.length
  let isBlock := m.message.startsWith "unexpected indent" || m.message.startsWith "unindent"
    || m.message.startsWith "expected an indented block"
  let size := if isBlock then 1 else min (max m.size 1) (max (body.length + margin - column) 1)
  let mark := if m.message.startsWith "unexpected indent" then []
    else "    ".toList ++ List.replicate (column - margin) ' ' ++ List.replicate size '^' ++ ['\n']
  ("  File \"" ++ file ++ "\", line " ++ toString m.line ++ "\n    ").toList ++ body ++ ['\n']
    ++ mark
    ++ ((if isBlock then "IndentationError: " else "SyntaxError: ") ++ m.message ++ "\n").toList

/-! ### At work -/

/-- A file for a channel. -/
def channelFile (path : String) (mode : Char) (supply : Supply) (channel : Option Nat) : Object :=
  .file ⟨path.toList, [mode], true, supply, none, channel, [], false⟩

/-- The state in which a script begins. -/
def firstState (file : String) (args : List Bytes) (environment : List (Bytes × Bytes)) : State :=
  let text (s : Bytes) : Value := .text (textOfBytes s)
  { heap := #[.list (args.map text).toArray,
      .dict (environment.map fun (k, v) => (text k, text v)).toArray,
      channelFile "<stdin>" 'r' .input none, channelFile "<stdout>" 'w' .nothing (some 1),
      channelFile "<stderr>" 'w' .nothing (some 2), .scope [] [] none]
    frames := [⟨file, "<module>", 1, []⟩], depth := 1, out := [], texts := [], handled := [] }

/-- The status of a script that ends with a value; another value than a number is told. -/
def exitStatus (h : Heap) (args : List Value) : Shell Nat := do
  let v : Value := match args with
    | [] => .none
    | [v] => v
    | vs => .tuple vs
  match v with
  | .none => return 0
  | v =>
    match v.whole? with
    | some n => return (n % 256).toNat
    | none =>
      write 2 (textBytes (v.toText h ++ ['\n']))
      return 1

/-- Carry out what a script does; the status. -/
def conclude (call : Caller) (start : State) (act : Run Unit) : Shell Nat := do
  let (r, s) ← act ⟨call⟩ start
  let status ← match r with
    | .error (.raised n) =>
      match s.heap[n]? with
      | some (.fault "SystemExit" args _ _) => exitStatus s.heap args
      | _ =>
        write 2 (textBytes (faultReport s.heap 100 n))
        pure 1
    | _ => pure 0
  let _ ← flushAll ⟨call⟩ s
  return status

/-- Tell of backslashes that mean nothing, once for each of them in a line. -/
def warn (file : String) (script : List Char) : Shell Unit := do
  let strays := (Token.ofText script).filterMap fun w =>
    (Token.strayIn? w script).map fun c => (w.line, c)
  strays.eraseDups.forM fun (line, c) => do
    let source := if file = "<string>" || file = "<stdin>" then []
      else ' ' :: ' ' :: TextMethod.stripped TextMethod.isBlank true true
        (((Bytes.splitAt '\n' script)[line - 1]?).getD []) ++ ['\n']
    write 2 (textBytes ((file ++ ":" ++ toString line
      ++ ": SyntaxWarning: invalid escape sequence '\\" ++ String.ofList [c] ++ "'\n").toList
      ++ source))

/-- Carry out a script. What it has written is handed on before it is told of an exception, except
where the script is an argument. -/
def runScript (call : Caller) (file : String) (args : List Bytes) (script : Bytes) :
    Shell Nat := do
  let text := (textOfBytes script).filter (· != '\x0d')
  match script? text with
  | .error m =>
    write 2 (textBytes (misreadReport file text m))
    return 1
  | .ok body =>
    warn file text
    let act := perform depthLimit Fixed.scope body
    conclude call (firstState file args (← environment))
      (if file = "<string>" then act else andFinally act flushOutput)

/-! ### A module as a program -/

/-- Read a value and write it in lines. -/
def reformat (args : List Bytes) : Run Unit := do
  let flags := args.filter fun s => s.head? = some '-' && s.length > 1
  let has (s : String) : Bool := flags.contains s.toList
  let rest := args.filter fun s => !(s.head? = some '-' && s.length > 1)
  let (indent, rest) : Nat × List Bytes := match has "--indent", rest with
    | true, n :: rest => ((Bytes.toNat? n).getD 4, rest)
    | _, rest => (4, rest)
  let text ← match rest with
    | path :: _ =>
      if path = ['-'] then pure (textOfBytes (← inShell (readAll 0)))
      else do pure (textOfBytes (← SystemModule.granted (textOfBytes path) (readFile path)))
    | [] => pure (textOfBytes (← inShell (readAll 0)))
  let v ← match (Exchange.whole text.length).run ⟨text, 0, ← heap⟩ with
    | .ok (v, r) =>
      modify fun s => { s with heap := r.heap }
      pure v
    | .error (message, index) =>
      raiseWith "SystemExit" [named (Exchange.located text message index)]
  let spaced := !(has "--compact") && !(has "--no-indent")
  let style : Exchange.Style :=
    { indent := if !spaced then none
        else some (if has "--tab" then ['\t'] else List.replicate indent ' ')
      sorted := has "--sort-keys"
      itemMark := if spaced || has "--compact" then [','] else [',', ' ']
      keyMark := if has "--compact" then [':'] else [':', ' ']
      ascii := !(has "--no-ensure-ascii") }
  let s ← Exchange.written style Exchange.unwritable Value.depthLimit 0 v
  let s := textBytes (s ++ ['\n'])
  match rest.drop 1 with
  | path :: _ =>
    match ← inShell (putFile path false s) with
    | .ok () => return ()
    | .error e => systemError e (textOfBytes path)
  | [] => writeFile Fixed.output s

/-- How the program is used. -/
def usage (name : Bytes) : Bytes :=
  "usage: ".toList ++ name ++ " [option] ... [-c cmd | -m mod | file | -] [arg] ...\n".toList
    ++ "Try `python -h' for more information.\n".toList

def versionText : String := "Python 3.12.3\n"

/-- Find out what is to be carried out, and do so. -/
def start (call : Caller) (name : Bytes) : Nat → List Bytes → Shell Nat
  | 0, _ => return 2
  | fuel + 1, args => do
    let misuse (message : Bytes) : Shell Nat := do
      write 2 (message ++ ['\n'] ++ usage name)
      return 2
    let runModule (m : Bytes) (rest : List Bytes) : Shell Nat := do
      if m = "json.tool".toList then
        conclude call (firstState "json/tool.py" [] (← environment)) (reformat rest)
      else
        write 2 ("/usr/bin/python3: No module named ".toList ++ m ++ ['\n'])
        return 1
    match args with
    | [] => runScript call "<stdin>" [[]] (← readAll 0)
    | ['-'] :: rest => runScript call "<stdin>" (['-'] :: rest) (← readAll 0)
    | ['-', 'c'] :: [] => misuse "Argument expected for the -c option".toList
    | ['-', 'c'] :: script :: rest =>
      runScript call "<string>" (['-', 'c'] :: rest) script
    | ('-' :: 'c' :: script) :: rest => runScript call "<string>" (['-', 'c'] :: rest) script
    | ['-', 'm'] :: [] => misuse "Argument expected for the -m option".toList
    | ['-', 'm'] :: m :: rest => runModule m rest
    | ('-' :: 'm' :: m) :: rest => runModule m rest
    | ['-', 'V'] :: _ =>
      say versionText
      return 0
    | ['-', 'X'] :: _ :: rest | ['-', 'W'] :: _ :: rest => start call name fuel rest
    | ('-' :: '-' :: word) :: rest =>
      if word = "version".toList then
        say versionText
        return 0
      else if word.isEmpty then start call name fuel (rest.map id)
      else misuse ("unknown option --".toList ++ word)
    | ('-' :: letters) :: rest =>
      match letters with
      | c :: more =>
        if "bBdEiIOPqsSuvx".toList.contains c then
          start call name fuel (if more.isEmpty then rest else ('-' :: more) :: rest)
        else misuse ("Unknown option: -".toList ++ [c])
      | [] => return 2
    | path :: rest =>
      match ← readFile path with
      | .ok script => runScript call (String.ofList (textOfBytes path)) (path :: rest) script
      | .error e =>
        let full := textBytes (SystemModule.joined (← workingFolder) path)
        write 2 (name ++ ": can't open file '".toList ++ full ++ "': [Errno ".toList
          ++ Bytes.ofNat (e.number?.getD 2) ++ "] ".toList ++ e.text.toList ++ ['\n'])
        return 2

end Interpreter

def python (call : Caller) : Utility := fun name args =>
  Interpreter.start call name (args.length * 20 + 20) args

end SvgSkeleton.Shell
