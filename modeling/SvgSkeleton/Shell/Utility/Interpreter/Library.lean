import SvgSkeleton.Shell.Digest
import SvgSkeleton.Shell.Utility.Encode
import SvgSkeleton.Shell.Utility.Interpreter.Exchange
import SvgSkeleton.Shell.Utility.Interpreter.Numbers
import SvgSkeleton.Shell.Utility.Interpreter.SearchModule
import SvgSkeleton.Shell.Utility.Interpreter.StoreMethod
import SvgSkeleton.Shell.Utility.Interpreter.SystemModule

/-!
The modules that a script can ask for, and what they hold.
-/

namespace SvgSkeleton.Shell.Interpreter.TableModule

/-! ### Tables as texts

A line stands for every row, with commas between its fields; a field with quotes around it may hold
anything.
-/

def names : List String := ["reader", "DictReader", "writer"]

/-- The kind of the values that rows are written with. -/
def writerKind : String := "_csv.writer"

/-- A field that begins with a quote, up to the mark behind it, and what follows. -/
def quotedField : List Char → List Char × List Char
  | '"' :: '"' :: s => let (a, b) := quotedField s; ('"' :: a, b)
  | '"' :: s => ([], s)
  | c :: s => let (a, b) := quotedField s; (c :: a, b)
  | [] => ([], [])

/-- The fields of a row, and what follows its line. -/
def row (mark : Char) : Nat → List Char → List (List Char) × List Char
  | 0, s => ([], s)
  | fuel + 1, s =>
    let isEnd (c : Char) : Bool := c == mark || c == '\n' || c == '\x0d'
    let (field, rest) : List Char × List Char := match s with
      | '"' :: r =>
        let (inner, rest) := quotedField r
        let more := rest.takeWhile (!isEnd ·)
        (inner ++ more, rest.drop more.length)
      | s =>
        let f := s.takeWhile (!isEnd ·)
        (f, s.drop f.length)
    match rest with
    | '\x0d' :: '\n' :: r | '\n' :: r | '\x0d' :: r => ([field], r)
    | [] => ([field], [])
    | _ :: r =>
      let (fields, rest) := row mark fuel r
      (field :: fields, rest)

/-- The rows of a text. An empty line is a row without fields. -/
def rows (mark : Char) : Nat → List Char → List (List (List Char))
  | 0, _ => []
  | fuel + 1, s =>
    match s with
    | [] => []
    | '\x0d' :: '\n' :: r | '\n' :: r => [] :: rows mark fuel r
    | s =>
      let (fields, rest) := row mark (s.length + 1) s
      fields :: rows mark fuel rest

/-- A field as it is written. -/
def fieldText (mark : Char) (s : List Char) : List Char :=
  if s.any fun c => c == mark || c == '"' || c == '\n' || c == '\x0d' then
    '"' :: s.flatMap (fun c => if c = '"' then ['"', '"'] else [c]) ++ ['"']
  else s

/-- The character between fields. -/
def markOf (g : Given) : Run Char := do
  match g.named.lookup "delimiter" with
  | some v => return ((← charsOf v).head?).getD ','
  | none => return ','

def call (name : String) (g : Given) : Run Value := do
  let source ← g.need name 0 "iterable"
  let mark ← markOf g
  if name = "writer" then
    let ending := (g.named.lookup "lineterminator").getD (.text ['\x0d', '\n'])
    return ← newObject (.record writerKind [("file", source), ("mark", .text [mark]),
      ("ending", ending)])
  let text := (← (← itemsOf source).mapM charsOf).flatten
  let all := rows mark (text.length + 1) text
  let texts (fields : List (List Char)) : List Value := fields.map .text
  if name = "reader" then
    newObject (.iterator (← all.mapM fun fields => newList (texts fields)))
  else
    match g.some? 1 "fieldnames", all.filter (!·.isEmpty) with
    | some names, rows =>
      let names ← itemsOf names
      newObject (.iterator (← rows.mapM fun fields => newDict (names.zip (texts fields))))
    | none, header :: rows =>
      newObject (.iterator (← rows.mapM fun fields => newDict ((texts header).zip (texts fields))))
    | none, [] => newObject (.iterator [])

/-- Write rows. -/
def callWriter (call : Call) (parts : List (String × Value)) (name : String) (g : Given) :
    Run Value := do
  let part (name : String) : Value := (parts.lookup name).getD .none
  let mark := ((← charsOf (part "mark")).head?).getD ','
  let rows ← match name with
    | "writerow" => do pure [← g.only name]
    | _ => itemsOf (← g.only name)
  let h ← heap
  rows.forM fun r => do
    let fields := (← itemsOf r).map fun v => match v with
      | .none => []
      | v => fieldText mark (v.toText h)
    let line := List.intercalate [mark] fields ++ (← charsOf (part "ending"))
    discard (call (.method (part "file") "write") (.one (.text line)))
  return .none

end SvgSkeleton.Shell.Interpreter.TableModule

namespace SvgSkeleton.Shell.Interpreter.Library

/-! ### Values as texts for other programs -/

/-- How values are written, by what a function is given. -/
def styleOf (g : Given) : Run Exchange.Style := do
  let flag (name : String) (usual : Bool) : Run Bool := do
    match g.named.lookup name with
    | some v => truth v
    | none => return usual
  let indent ← match g.named.lookup "indent" with
    | none | some .none => pure none
    | some (.text s) => pure (some s)
    | some v => do pure (some (List.replicate (← wholeOf v).toNat ' '))
  let marks ← match g.some? 100 "separators" with
    | none => pure (if indent.isSome then [','] else [',', ' '], [':', ' '])
    | some v => match ← itemsOf v with
      | [a, b] => do pure (← charsOf a, ← charsOf b)
      | _ => raise "ValueError" "not enough values to unpack (expected 2, got 1)"
  return ⟨indent, ← flag "sort_keys" false, marks.1, marks.2, ← flag "ensure_ascii" true⟩

/-- The text of a value. -/
def written (call : Call) (g : Given) (v : Value) : Run (List Char) := do
  let style ← styleOf g
  let instead (v : Value) : Run Value := match g.some? 100 "default" with
    | some f => call f (.one v)
    | none => Exchange.within Exchange.writeFrames (Exchange.unwritable v)
  Exchange.written style instead Value.depthLimit 0 v

def exchangeNames : List String := ["dumps", "dump", "loads", "load"]

def callExchange (call : Call) (name : String) (g : Given) : Run Value := do
  match name with
  | "dumps" => return .text (← written call g (← g.need name 0 "obj"))
  | "dump" =>
    let s ← written call g (← g.need name 0 "obj")
    discard (call (.method (← g.need name 1 "fp") "write") (.one (.text s)))
    return .none
  | "load" =>
    let file ← g.need name 0 "fp"
    match file, ← objectOf? file with
    | .object n, some (.file f) =>
      let v ← StoreMethod.callFile n f "read" .none
      Exchange.within [Exchange.loadFrame] do Exchange.read (← charsOf v)
    | v, _ =>
      raise "AttributeError" ("'" ++ v.kindName (← heap) ++ "' object has no attribute 'read'")
  | _ =>
    match ← g.need name 0 "s" with
    | .text s => Exchange.read s
    | .bytes s => Exchange.read (textOfBytes s)
    | v => Exchange.within [⟨Exchange.readerFolder ++ "__init__.py", "loads", 339,
        ["raise TypeError(f'the JSON object must be str, bytes or bytearray, '"]⟩] do
      raise "TypeError" ("the JSON object must be str, bytes or bytearray, not "
        ++ v.kindName (← heap))

/-! ### Codes and digests -/

def codeNames : List String :=
  ["b64encode", "b64decode", "urlsafe_b64encode", "urlsafe_b64decode", "b32encode", "b16encode"]

def callCode (name : String) (g : Given) : Run Value := do
  let v ← g.need name 0 "s"
  let s ← match v with
    | .bytes s => pure s
    | .text s =>
      if name.endsWith "decode" then pure s
      else raise "TypeError" "a bytes-like object is required, not 'str'"
    | v => typeError "a bytes-like object is required, not " v ""
  let encode (a : Encode.Alphabet) : Run Value :=
    return .bytes (Encode.Alphabet.encode a (s.length + 1) s)
  let decode (a : Encode.Alphabet) : Run Value := do
    let kept := s.filter fun c => c.isAlphanum || "+/-_=".toList.contains c
    if kept.length % 4 != 0 then raise "binascii.Error" "Incorrect padding"
    return .bytes (Encode.Alphabet.decode a (kept.length + 1) kept).1
  match name with
  | "b64encode" => encode Encode.base64
  | "urlsafe_b64encode" => encode Encode.base64url
  | "b32encode" => encode Encode.base32
  | "b16encode" => encode Encode.base16
  | "urlsafe_b64decode" => decode Encode.base64url
  | _ => decode Encode.base64

/-- The digests that there are. -/
def digests : List (String × (Bytes → Bytes)) :=
  [("md5", Digest.md5), ("sha1", Digest.sha1), ("sha224", Digest.sha224),
   ("sha256", Digest.sha256), ("sha384", Digest.sha384), ("sha512", Digest.sha512),
   ("blake2b", Digest.blake2b)]

/-- The kind of the values that digests are taken of. -/
def digestKind : String := "_hashlib.HASH"

def callDigest (name : String) (g : Given) : Run Value := do
  match g.values with
  | [] => newObject (.record digestKind [("name", named name), ("data", .bytes [])])
  | .bytes s :: _ => newObject (.record digestKind [("name", named name), ("data", .bytes s)])
  | _ => raise "TypeError" "Strings must be encoded before hashing"

/-- What a value does that a digest is taken of. -/
def callDigestMethod (n : Nat) (algorithm data : Bytes) (name : String) (g : Given) :
    Run Value := do
  let hex : Bytes := match digests.lookup (String.ofList algorithm) with
    | some f => f data
    | none => []
  match name with
  | "update" =>
    let more ← charsOf (← g.only name)
    setObject n (.record digestKind [("name", .text algorithm), ("data", .bytes (data ++ more))])
    return .none
  | "hexdigest" => return .text hex
  | _ => return .bytes (Digest.bytesOf hex)

/-! ### Rows of values -/

def rowNames : List String :=
  ["chain", "product", "permutations", "combinations", "accumulate", "repeat", "islice", "starmap",
   "zip_longest", "count"]

/-- All ways to take one value of each row. -/
def choices : List (List Value) → List (List Value)
  | [] => [[]]
  | xs :: rest => xs.flatMap fun x => (choices rest).map (x :: ·)

/-- All ways to choose some values, in order. -/
def combinations : Nat → List Value → List (List Value)
  | 0, _ => [[]]
  | _ + 1, [] => []
  | n + 1, x :: xs => (combinations n xs).map (x :: ·) ++ combinations (n + 1) xs

/-- All ways to put some values in a row. -/
def arrangements : Nat → List Value → List (List Value)
  | 0, _ => [[]]
  | n + 1, xs => xs.zipIdx.flatMap fun (x, i) => (arrangements n (xs.eraseIdx i)).map (x :: ·)

/-- Rows as columns, as long as the longest one. -/
def columns (missing : Value) (rows : List (List Value)) : List (List Value) :=
  let n := rows.foldl (fun n r => max n r.length) 0
  (List.range n).map fun i => rows.map fun r => r.getD i missing

def callRow (call : Call) (name : String) (g : Given) : Run Value := do
  let tuples (rows : List (List Value)) : Run Value := newObject (.iterator (rows.map .tuple))
  let number (n : Nat) (usual : Nat) : Run Nat := do
    match g.some? n "r" with
    | some v => return (← wholeOf v).toNat
    | none => return usual
  match name with
  | "chain" => newObject (.iterator (← g.values.mapM itemsOf).flatten)
  | "product" =>
    let rows ← g.values.mapM itemsOf
    let times ← match g.named.lookup "repeat" with
      | some v => do pure (← wholeOf v).toNat
      | none => pure 1
    tuples (choices (List.replicate times rows).flatten)
  | "permutations" =>
    let xs ← itemsOf (← g.need name 0 "iterable")
    tuples (arrangements (← number 1 xs.length) xs)
  | "combinations" =>
    let xs ← itemsOf (← g.need name 0 "iterable")
    tuples (combinations (← number 1 0) xs)
  | "accumulate" =>
    let xs ← itemsOf (← g.need name 0 "iterable")
    let mut done : List Value := []
    for x in xs do
      match done with
      | [] => done := [x]
      | last :: _ =>
        let next ← match g.some? 1 "func" with
          | some f => call f ⟨[last, x], []⟩
          | none => Operator.add.on last x
        done := next :: done
    newObject (.iterator done.reverse)
  | "repeat" =>
    newObject (.iterator (List.replicate (← number 1 0) (← g.need name 0 "object")))
  | "islice" =>
    let xs ← itemsOf (← g.need name 0 "iterable")
    let slice ← match g.values.drop 1 with
      | [last] => sliceOf .none last .none
      | [first, last] => sliceOf first last .none
      | first :: last :: step :: _ => sliceOf first last step
      | [] => sliceOf .none .none .none
    newObject (.iterator (slice.of xs))
  | "starmap" =>
    let f ← g.need name 0 "function"
    let rows ← itemsOf (← g.need name 1 "iterable")
    newObject (.iterator (← rows.mapM fun r => do call f ⟨← itemsOf r, []⟩))
  | "zip_longest" =>
    tuples (columns ((g.named.lookup "fillvalue").getD .none) (← g.values.mapM itemsOf))
  | _ =>
    let first ← match g.get? 0 "start" with
      | some v => wholeOf v
      | none => pure 0
    return .range first (first + 1000000) 1

def callFunction (call : Call) (name : String) (g : Given) : Run Value := do
  match name with
  | "reduce" =>
    let f ← g.need name 0 "function"
    let xs ← itemsOf (← g.need name 1 "iterable")
    match g.get? 2 "initial", xs with
    | some v, xs => xs.foldlM (fun a b => call f ⟨[a, b], []⟩) v
    | none, x :: xs => xs.foldlM (fun a b => call f ⟨[a, b], []⟩) x
    | none, [] => raise "TypeError" "reduce() of empty iterable with no initial value"
  | _ => g.need name 0 "function"

/-! ### Modules -/

/-- The functions that modules hold. -/
def functions : List (String × List String) :=
  [("json", exchangeNames), ("os", SystemModule.osNames), ("os.path", SystemModule.pathNames),
   ("sys", ["exit", "getrecursionlimit", "getdefaultencoding"]), ("time", SystemModule.timeNames),
   ("subprocess", SystemModule.processNames), ("math", Numbers.names), ("re", SearchModule.names),
   ("base64", codeNames), ("hashlib", digests.map (·.1)), ("itertools", rowNames),
   ("functools", ["reduce", "lru_cache", "cache"]), ("csv", TableModule.names)]

def moduleNames : List String :=
  functions.map (·.1) ++ ["string", "json.decoder", "collections", "signal"]

/-- What a module holds besides functions. -/
def constants (name : String) : List (String × Value) :=
  let text (s : String) : Value := named s
  let lower := "abcdefghijklmnopqrstuvwxyz"
  let upper := "ABCDEFGHIJKLMNOPQRSTUVWXYZ"
  let exceptions := [("JSONDecodeError", Value.known "json.decoder.JSONDecodeError")]
  match name with
  | "sys" =>
    [("argv", .object Fixed.arguments), ("stdin", .object Fixed.input),
     ("stdout", .object Fixed.output), ("stderr", .object Fixed.errors),
     ("maxsize", .int 9223372036854775807), ("platform", text "linux"),
     ("byteorder", text "little"), ("executable", text "/usr/bin/python3"),
     ("version", text "3.12.3 (main, Mar 23 2026, 19:04:32) [GCC 13.3.0]"),
     ("version_info", .tuple [.int 3, .int 12, .int 3, text "final", .int 0])]
  | "os" =>
    [("environ", .object Fixed.environment), ("sep", text "/"), ("linesep", text "\n"),
     ("name", text "posix"), ("path", .module "os.path"), ("curdir", text "."),
     ("devnull", text "/dev/null"), ("pathsep", text ":"), ("error", .known "OSError")]
  | "os.path" => [("sep", text "/")]
  | "math" => Numbers.constants
  | "json" => ("decoder", .module "json.decoder") :: exceptions
  | "json.decoder" => exceptions
  | "re" =>
    ("error", .known "re.error") :: SearchModule.settings.map fun (s, n) => (s, .int n)
  | "subprocess" =>
    [("PIPE", .int SystemModule.pipe), ("STDOUT", .int SystemModule.errorsToOutput),
     ("DEVNULL", .int SystemModule.nowhere),
     ("CalledProcessError", .known "subprocess.CalledProcessError")]
  | "string" =>
    [("ascii_lowercase", text lower), ("ascii_uppercase", text upper),
     ("ascii_letters", text (lower ++ upper)), ("digits", text "0123456789"),
     ("hexdigits", text "0123456789abcdefABCDEF"), ("octdigits", text "01234567"),
     ("whitespace", text " \t\n\x0d\x0b\x0c"),
     ("punctuation", text "!\"#$%&'()*+,-./:;<=>?@[\\]^_\x60\x7b|\x7d~")]
  | "collections" => [("OrderedDict", .known "dict")]
  | "signal" =>
    [("SIGHUP", .int 1), ("SIGINT", .int 2), ("SIGQUIT", .int 3), ("SIGABRT", .int 6),
     ("SIGKILL", .int 9), ("SIGSEGV", .int 11), ("SIGPIPE", .int 13), ("SIGALRM", .int 14),
     ("SIGTERM", .int 15)]
  | _ => []

/-- What a module holds by a name. -/
def attribute? (m name : String) : Option Value :=
  ((constants m).lookup name).or
    (if ((functions.lookup m).getD []).contains name then some (.known (m ++ "." ++ name))
      else none)

/-- Call a function of a module. -/
def callModule (call : Call) (m name : String) (g : Given) : Run Value := do
  match m with
  | "json" => callExchange call name g
  | "os" => SystemModule.callOs name g
  | "os.path" => SystemModule.callPath name g
  | "time" => SystemModule.callTime name g
  | "subprocess" => SystemModule.callProcess name g
  | "math" => Numbers.call name g
  | "re" => SearchModule.callModule call name g
  | "base64" => callCode name g
  | "hashlib" => callDigest name g
  | "itertools" => callRow call name g
  | "functools" => callFunction call name g
  | "csv" => TableModule.call name g
  | _ =>
    match name with
    | "exit" => raiseWith "SystemExit" g.values
    | "getrecursionlimit" => return .int recursionLimit
    | _ => return named "utf-8"

end SvgSkeleton.Shell.Interpreter.Library
