import SvgSkeleton.Shell.Utility.Interpreter.Library

/-!
The functions that are there from the start, the parts of values that have names, and what values
can do.
-/

namespace SvgSkeleton.Shell.Interpreter.Known

/-! ### Making values -/

/-- A number that a text writes in a base; digits may have lines between them. -/
def wholeIn? (base : Nat) (s : List Char) : Option Int :=
  let s := TextMethod.stripped TextMethod.isBlank true true s
  let (negative, body) : Bool × List Char := match s with
    | '-' :: r => (true, r)
    | '+' :: r => (false, r)
    | r => (false, r)
  let marked (b : Nat) (c : Char) : Bool :=
    (base = b || base = 0) && body.head? == some '0'
      && (body.drop 1).head?.map Char.toLower == some c
  let (base, body) : Nat × List Char :=
    if marked 16 'x' then (16, body.drop 2)
    else if marked 8 'o' then (8, body.drop 2)
    else if marked 2 'b' then (2, body.drop 2)
    else (if base = 0 then 10 else base, body)
  let value (c : Char) : Option Nat :=
    if c.isDigit then some (c.toNat - 48)
    else if c.isAlpha && c.toNat < 128 then some (c.toLower.toNat - 87)
    else none
  let ds := body.filter (· != '_')
  if ds.isEmpty || body.head? = some '_' || body.getLast? = some '_'
      || !ds.all (fun c => (value c).any (· < base)) then none
  else
    let n : Int := ds.foldl (fun n c => n * base + (value c).getD 0) 0
    some (if negative then -n else n)

def makeInt (g : Given) : Run Value := do
  match g.values, g.named.lookup "base" with
  | [], _ => return .int 0
  | v :: rest, named =>
    match v with
    | .text s | .bytes s =>
      let base ← match rest.head?.or named with
        | some b => wholeOf b
        | none => pure 10
      match wholeIn? base.toNat s with
      | some n => return .int n
      | none =>
        raiseText "ValueError" ("invalid literal for int() with base ".toList ++ Bytes.ofInt base
          ++ [':', ' '] ++ v.shown (← heap))
    | v =>
      match v.number? with
      | some _ => Numbers.wholeBy (fun a b => Int.tdiv a b) v
      | none =>
        typeError "int() argument must be a string, a bytes-like object or a real number, not " v ""

def makeFloat (g : Given) : Run Value := do
  match g.values with
  | [] => return .float Floating.zero
  | v :: _ =>
    match v with
    | .text s =>
      let t := TextMethod.stripped TextMethod.isBlank true true s
      let clean := t.filter (· != '_')
      let r := Floating.read .double clean
      let isHex := (clean.dropWhile fun c => c == '-' || c == '+').take 2 |>.map Char.toLower
      if t.isEmpty || !r.rest.isEmpty || isHex = ['0', 'x'] then
        raiseText "ValueError" ("could not convert string to float: ".toList ++ v.shown (← heap))
      return .float r.value
    | v =>
      match v.number? with
      | some x =>
        let y := Numbers.double x
        if x.isFinite && !y.isFinite then raise "OverflowError" "int too large to convert to float"
        return .float y
      | none => typeError "float() argument must be a string or a real number, not " v ""

def makeBytes (g : Given) : Run Value := do
  match g.values with
  | [] => return .bytes []
  | [.text _] => raise "TypeError" "string argument without an encoding"
  | .text s :: _ => return .bytes (textBytes s)
  | .bytes s :: _ => return .bytes s
  | .int n :: _ =>
    needRoom n.toNat
    return .bytes (List.replicate n.toNat '\x00')
  | v :: _ =>
    let ns ← (← itemsOf v).mapM wholeOf
    if ns.any fun n => n < 0 || 255 < n then
      raise "ValueError" "bytes must be in range(0, 256)"
    return .bytes (ns.map fun n => Char.ofNat n.toNat)

def makeDict (g : Given) : Run Value := do
  let first ← match g.values with
    | [] => pure []
    | v :: _ => StoreMethod.entriesOf v
  newDict (first ++ g.named.map fun (k, v) => (.text k.toList, v))

/-- A text for a value. -/
def makeText (g : Given) : Run Value := do
  match g.values with
  | [] => return .text []
  | .bytes s :: _ :: _ => return .text (textOfBytes s)
  | v :: _ => return .text (v.toText (← heap))

def makeRange (g : Given) : Run Value := do
  match ← g.values.mapM wholeOf with
  | [last] => return .range 0 last 1
  | [first, last] => return .range first last 1
  | [first, last, step] =>
    if step = 0 then raise "ValueError" "range() arg 3 must not be zero"
    return .range first last step
  | [] => raise "TypeError" "range expected at least 1 argument, got 0"
  | vs =>
    raise "TypeError" ("range expected at most 3 arguments, got " ++ toString vs.length)

/-- A value of a kind. -/
def make (kind : String) (g : Given) : Run Value := do
  let items : Run (List Value) := match g.values with
    | [] => return []
    | v :: _ => itemsOf v
  match kind with
  | "int" => makeInt g
  | "float" => makeFloat g
  | "str" => makeText g
  | "bytes" => makeBytes g
  | "bool" => match g.values with
    | [] => return .bool false
    | v :: _ => return .bool (← truth v)
  | "list" => newList (← items)
  | "tuple" => return .tuple (← items)
  | "set" | "frozenset" => newSet (← items)
  | "dict" => makeDict g
  | "range" => makeRange g
  | "type" =>
    let v ← g.only "type"
    match ← objectOf? v with
    | some (.fault kind _ _ _) => return .known kind
    | _ => return .known (v.kindName (← heap))
  | "object" => newObject (.record "object" [])
  | kind => newObject (.fault kind g.values [] none)

/-! ### Functions -/

def functionNames : List String :=
  ["print", "len", "sorted", "reversed", "enumerate", "zip", "map", "filter", "sum", "min", "max",
   "abs", "round", "isinstance", "repr", "ascii", "ord", "chr", "hex", "oct", "bin", "any", "all",
   "open", "input", "iter", "next", "divmod", "pow", "callable", "getattr", "hasattr", "format",
   "exit", "quit", "__import__", "id", "hash", "issubclass"]

/-- Is a value of a kind? -/
def isOfKind (v : Value) (kind : String) : Run Bool := do
  if kind = "object" then return true
  match v, ← objectOf? v with
  | .bool _, _ => return kind = "bool" || kind = "int"
  | _, some (.fault k _ _ _) => return Value.kindIs k kind
  | v, _ => return v.kindName (← heap) = kind

/-- The names of the kinds that a value stands for. -/
def kindsOf (v : Value) : List String :=
  match v with
  | .known s => [s]
  | .tuple vs => vs.filterMap fun v => match v with
    | .known s => some s
    | _ => none
  | _ => []

/-- The least or the greatest of values, by what a function makes of them. -/
def extreme (call : Call) (name : String) (g : Given) : Run Value := do
  let items ← match g.values with
    | [v] => itemsOf v
    | vs => pure vs
  let keyed ← match g.some? 100 "key" with
    | none => pure (items.map fun v => (v, v))
    | some f => items.mapM fun v => do pure (← call f (.one v), v)
  match keyed with
  | [] => match g.named.lookup "default" with
    | some v => return v
    | none => raise "ValueError" (name ++ "() iterable argument is empty")
  | first :: rest =>
    let relation : Relation := if name = "min" then .less else .greater
    let best ← rest.foldlM (fun a b => do
      return if ← relation.holds b.1 a.1 then b else a) first
    return best.2

/-- A number rounded to some places, a tie to the even neighbour. -/
def roundTo (v : Value) (places : Option Int) : Run Value := do
  let toWhole (n : Int) (unit : Nat) : Int :=
    let q := Binary64.roundQuotient n.natAbs unit
    if n < 0 then -(q : Int) else q
  match v.whole?, places with
  | some n, none => return .int n
  | some n, some p =>
    if 0 ≤ p then return .int n
    else return .int (toWhole n (Nat.pow 10 p.natAbs) * (Nat.pow 10 p.natAbs : Nat))
  | none, places =>
    match v with
    | .float (.finite negative a b) =>
      match places with
      | none => return .int (toWhole (Floating.signed negative a) b)
      | some p =>
        let scale := Nat.pow 10 p.natAbs
        let n := if 0 ≤ p then Binary64.roundQuotient (a * scale) b
          else Binary64.roundQuotient a (b * scale)
        return .float (if 0 ≤ p then Floating.ofQuotient .double negative n scale
          else Floating.ofQuotient .double negative (n * scale) 1)
    | .float x =>
      if places.isSome then return .float x
      else if x matches .infinite _ then
        raise "OverflowError" "cannot convert float infinity to integer"
      else raise "ValueError" "cannot convert float NaN to integer"
    | v =>
      raise "TypeError" ("type " ++ v.kindName (← heap) ++ " doesn't define __round__ method")

/-- Write values, with a mark between them and another one behind them. -/
def print (call : Call) (g : Given) : Run Value := do
  let mark (name usual : String) : Run (List Char) := do
    match g.some? 100 name with
    | some v => charsOf v
    | none => return usual.toList
  let h ← heap
  let s := List.intercalate (← mark "sep" " ") (g.values.map (·.toText h)) ++ (← mark "end" "\n")
  match g.some? 100 "file" with
  | none => writeFile Fixed.output (textBytes s)
  | some f => discard (call (.method f "write") (.one (.text s)))
  match g.named.lookup "flush" with
  | some v => if ← truth v then
      flushFile (match g.some? 100 "file" with
        | some (.object n) => n
        | _ => Fixed.output)
  | none => pure ()
  return .none

/-- Read a line. -/
def input (g : Given) : Run Value := do
  if let v :: _ := g.values then writeFile Fixed.output (textBytes (v.toText (← heap)))
  match (← heap)[Fixed.input]? with
  | some (.file f) =>
    flushOutput
    let s ← textLeft Fixed.input f
    if s.isEmpty then raise "EOFError" "EOF when reading a line"
    let (line, rest) := lineOf s
    match (← heap)[Fixed.input]? with
    | some (.file f) => setTextLeft Fixed.input f rest
    | _ => pure ()
    return .text (TextMethod.stripped (· == '\n') false true line)
  | _ => return .none

/-- The digits of a number in a base, with a mark. -/
def based (base : Nat) (mark : String) (v : Value) : Run Value := do
  let n ← wholeOf v
  let ds := mark.toList ++ Nat.toDigits base n.natAbs
  return .text (if n < 0 then '-' :: ds else ds)

/-- A value laid out by a text. -/
def laidOut (v : Value) (spec : List Char) : Run (List Char) := do
  if let some l := Layout.ofText? spec then
    if l.excessive then raise "ValueError" "Too many decimal digits in format string"
    if l.unprecise && !(v matches .text _) then raise "ValueError" "precision too big"
    needRoom l.width
  match Layout.value (← heap) v spec with
  | .ok s => return s
  | .error message =>
    raise (if message.startsWith "unsupported format string" then "TypeError" else "ValueError")
      message

/-- The rows of several values, as far as all of them have values. -/
def zipped (rows : List (List Value)) : List Value :=
  match rows with
  | [] => []
  | r :: rest =>
    let n := rest.foldl (fun n r => min n r.length) r.length
    ((Library.columns .none rows).take n).map .tuple

/-- What can be called. -/
def isCallable (v : Value) : Run Bool := do
  match v, ← objectOf? v with
  | .known _, _ | .method _ _, _ => return true
  | _, some (.function _ _ _ _ _) => return true
  | _, _ => return false

/-- What a function does that is there from the start. -/
def callFunction (call : Call) (name : String) (g : Given) : Run Value := do
  let arg (n : Nat) (key : String) : Run Value := g.need name n key
  let rows : Run (List (List Value)) := g.values.mapM itemsOf
  match name with
  | "print" => print call g
  | "len" => return .int (← lengthOf (← g.only name) : Nat)
  | "sorted" => newList (← sortedWith call g (← itemsOf (← arg 0 "iterable")))
  | "reversed" => newObject (.iterator (← itemsOf (← g.only name)).reverse)
  | "enumerate" =>
    let first ← match g.get? 1 "start" with
      | some v => wholeOf v
      | none => pure 0
    let xs ← itemsOf (← arg 0 "iterable")
    newObject (.iterator (xs.zipIdx.map fun (v, i) => .tuple [.int (first + (i : Int)), v]))
  | "zip" => newObject (.iterator (zipped (← rows)))
  | "map" =>
    let f ← arg 0 "func"
    let rs ← (g.values.drop 1).mapM itemsOf
    let given := (zipped rs).map fun v => match v with
      | .tuple vs => vs
      | v => [v]
    newObject (.iterator (← given.mapM fun vs => call f ⟨vs, []⟩))
  | "filter" =>
    let f ← arg 0 "function"
    let xs ← itemsOf (← arg 1 "iterable")
    newObject (.iterator (← xs.filterM fun v => do
      match f with
      | .none => truth v
      | f => truth (← call f (.one v))))
  | "sum" =>
    let start := (g.get? 1 "start").getD (.int 0)
    (← itemsOf (← arg 0 "iterable")).foldlM (fun a b => Operator.add.on a b) start
  | "min" | "max" => extreme call name g
  | "abs" =>
    match ← g.only name with
    | .float x => return .float (if x.isNegative then x.negate else x)
    | v => match v.whole? with
      | some n => return .int n.natAbs
      | none => typeError "bad operand type for abs(): " v ""
  | "round" =>
    let places ← match g.some? 1 "ndigits" with
      | some v => do pure (some (← wholeOf v))
      | none => pure none
    roundTo (← arg 0 "number") places
  | "isinstance" =>
    let v ← arg 0 "object"
    return .bool (← (kindsOf (← arg 1 "class")).anyM (isOfKind v))
  | "issubclass" =>
    match ← arg 0 "class" with
    | .known s => return .bool ((kindsOf (← arg 1 "class")).any fun k => k = s || Value.kindIs s k)
    | _ => raise "TypeError" "issubclass() arg 1 must be a class"
  | "repr" | "ascii" => return .text ((← g.only name).shown (← heap))
  | "ord" =>
    match ← g.only name with
    | .text [c] | .bytes [c] => return .int c.toNat
    | .text s =>
      raise "TypeError" ("ord() expected a character, but string of length " ++ toString s.length
        ++ " found")
    | v =>
      raise "TypeError" ("ord() expected string of length 1, but " ++ v.kindName (← heap)
        ++ " found")
  | "chr" =>
    let n ← wholeOf (← g.only name)
    if n < 0 || 0x110000 ≤ n then raise "ValueError" "chr() arg not in range(0x110000)"
    return .text [Char.ofNat n.toNat]
  | "hex" => based 16 "0x" (← g.only name)
  | "oct" => based 8 "0o" (← g.only name)
  | "bin" => based 2 "0b" (← g.only name)
  | "any" => return .bool (← (← itemsOf (← g.only name)).anyM truth)
  | "all" => return .bool (← (← itemsOf (← g.only name)).allM truth)
  | "open" =>
    let mode ← match g.get? 1 "mode" with
      | some v => charsOf v
      | none => pure ['r']
    SystemModule.openFile (← SystemModule.pathText (← arg 0 "file")) mode
  | "input" => input g
  | "iter" =>
    let v ← g.only name
    match ← objectOf? v with
    | some (.iterator _) | some (.file _) => return v
    | _ => newObject (.iterator (← itemsOf v))
  | "next" =>
    let v ← arg 0 "iterator"
    match v, ← objectOf? v with
    | .object n, some (.iterator (x :: xs)) =>
      setObject n (.iterator xs)
      return x
    | .object _, some (.iterator []) =>
      match g.get? 1 "default" with
      | some v => return v
      | none => raiseWith "StopIteration" []
    | .object n, some (.file f) =>
      let line ← StoreMethod.callFile n f "readline" .none
      if ← truth line then return line
      match g.get? 1 "default" with
      | some v => return v
      | none => raiseWith "StopIteration" []
    | v, _ => typeError "" v " object is not an iterator"
  | "divmod" =>
    let a ← arg 0 "a"
    let b ← arg 1 "b"
    return .tuple [← Operator.floorDiv.on a b, ← Operator.mod.on a b]
  | "pow" =>
    let v ← Operator.pow.on (← arg 0 "base") (← arg 1 "exp")
    match g.some? 2 "mod" with
    | some m => Operator.mod.on v m
    | none => return v
  | "callable" => return .bool (← isCallable (← g.only name))
  | "format" =>
    let spec ← match g.get? 1 "format_spec" with
      | some v => charsOf v
      | none => pure []
    return .text (← laidOut (← arg 0 "value") spec)
  | "exit" | "quit" => raiseWith "SystemExit" g.values
  | "__import__" =>
    let m := String.ofList (← charsOf (← arg 0 "name"))
    if Library.moduleNames.contains m then return .module m
    else raise "ModuleNotFoundError" ("No module named '" ++ m ++ "'")
  | "id" =>
    match ← g.only name with
    | .object n => return .int (140000000000000 + 48 * n : Nat)
    | _ => return .int 9788960
  | "hash" =>
    let v ← g.only name
    checkKey v
    return .int (v.whole?.getD 0)
  | name => raise "TypeError" ("'" ++ name ++ "' is not callable")

/-! ### Parts with names -/

/-- The names of what a value can do. -/
def methodNames (h : Heap) (v : Value) : List String :=
  match v with
  | .text _ => TextMethod.names ++ TextMethod.ownNames true
  | .bytes _ => TextMethod.names ++ TextMethod.ownNames false
  | .tuple _ | .range _ _ _ => ["index", "count"]
  | .int _ | .bool _ => ["bit_length", "is_integer", "to_bytes", "bit_count"]
  | .float _ => ["is_integer", "as_integer_ratio"]
  | .object n => match h[n]? with
    | some (.list _) => StoreMethod.listNames
    | some (.dict _) => StoreMethod.dictNames
    | some (.set _) => StoreMethod.setNames
    | some (.file _) => StoreMethod.fileNames
    | some (.found _ _ _) => StoreMethod.foundNames
    | some (.pattern _ _) => SearchModule.names
    | some (.fault _ _ _ _) => ["with_traceback"]
    | some (.iterator _) => ["__next__"]
    | some (.record kind _) =>
      if kind = Library.digestKind then ["update", "hexdigest", "digest"]
      else if kind = TableModule.writerKind then ["writerow", "writerows"]
      else []
    | _ => []
  | _ => []

/-- The parts of an exception that have names. -/
def faultPart? (kind : String) (args : List Value) (name : String) : Option Value :=
  match name with
  | "args" => some (.tuple (Value.faultArguments kind args))
  | "code" => if kind = "SystemExit" then some (args.headD .none) else none
  | "errno" => if Value.kindIs kind "OSError" then some (args.headD .none) else none
  | "strerror" => if Value.kindIs kind "OSError" then some (args.getD 1 .none) else none
  | "filename" => if Value.kindIs kind "OSError" then some (args.getD 2 .none) else none
  | "msg" => match args with
    | .text s :: _ => some (.text (s.takeWhile (· != ':')))
    | _ => none
  | "returncode" => match args with
    | .text s :: _ =>
      let digits := (s.reverse.drop 1).takeWhile Char.isDigit
      some (.int (Text.ofDigits 10 digits.reverse))
    | _ => none
  | _ => none

/-- The part of a value that has a name. -/
def partOf (v : Value) (name : String) : Run Value := do
  let h ← heap
  let missing : Run Value :=
    raise "AttributeError" ("'" ++ v.kindName h ++ "' object has no attribute '" ++ name ++ "'")
  if (methodNames h v).contains name then return .method v name
  match v with
  | .module m =>
    match Library.attribute? m name with
    | some v => return v
    | none =>
      if Library.moduleNames.contains (m ++ "." ++ name) then return .module (m ++ "." ++ name)
      raise "AttributeError" ("module '" ++ (if m = "os.path" then "posixpath" else m)
        ++ "' has no attribute '" ++ name ++ "'")
  | .known s =>
    if name = "__name__" then return named (Value.shortName s)
    else if Value.isType s then return .known (s ++ "." ++ name)
    else missing
  | .int n =>
    match name with
    | "real" | "numerator" => return .int n
    | "imag" => return .int 0
    | "denominator" => return .int 1
    | _ => missing
  | v =>
    if name = "__class__" then return .known (match ← objectOf? v with
      | some (.fault kind _ _ _) => kind
      | _ => v.kindName h)
    match ← objectOf? v with
    | some (.fault kind args _ _) => match faultPart? kind args name with
      | some v => return v
      | none => missing
    | some (.file f) =>
      match name with
      | "name" => return .text f.path
      | "mode" => return .text f.mode
      | "closed" => return .bool f.closed
      | "encoding" => return named "utf-8"
      | "buffer" => newObject (.file { f with isText := false })
      | _ => missing
    | some (.record _ parts) => match parts.lookup name with
      | some v => return v
      | none => missing
    | some (.function s _ _ _ _) => if name = "__name__" then return named s else missing
    | some (.found _ s _) => if name = "string" then return .text s else missing
    | some (.pattern _ s) => if name = "pattern" then return .text s else missing
    | _ => missing

/-! ### Texts with named places -/

/-- A place for a value in a text: its path, how it is turned into a text, and its layout. -/
structure Slot where
  path : List Char
  conversion : Option Char
  spec : List Char

/-- The text up to the brace that closes it, and what follows. -/
def toBrace : Nat → List Char → Option (List Char × List Char)
  | _, [] => none
  | depth, c :: s =>
    if c = '\x7d' && depth = 0 then some ([], s)
    else
      let d := if c = '\x7b' then depth + 1 else if c = '\x7d' then depth - 1 else depth
      (toBrace d s).map fun (a, b) => (c :: a, b)

def slotOf (s : List Char) : Slot :=
  let path := s.takeWhile fun c => c != '!' && c != ':'
  match s.drop path.length with
  | '!' :: c :: ':' :: spec => ⟨path, some c, spec⟩
  | '!' :: c :: _ => ⟨path, some c, []⟩
  | ':' :: spec => ⟨path, none, spec⟩
  | _ => ⟨path, none, []⟩

/-- The value at the end of a path of names and indices. -/
def follow : Nat → Value → List Char → Run Value
  | 0, v, _ => return v
  | fuel + 1, v, s =>
    match s with
    | '.' :: r => do
      let name := r.takeWhile fun c => c != '.' && c != '['
      follow fuel (← partOf v (String.ofList name)) (r.drop name.length)
    | '[' :: r => do
      let key := r.takeWhile (· != ']')
      let k : Value := match Bytes.toNat? key with
        | some n => .int n
        | none => .text key
      follow fuel (← itemOf v k) (r.drop (key.length + 1))
    | _ => return v

/-- A value turned into a text, if that is asked for, and laid out. -/
def converted (v : Value) (conversion : Option Char) (spec : List Char) : Run (List Char) := do
  let h ← heap
  match conversion with
  | some 's' => laidOut (.text (v.toText h)) spec
  | some _ => laidOut (.text (v.shown h)) spec
  | none => laidOut v spec

/-- A text with values in its braces. The number counts the ones without a name. -/
def fillBraces (g : Given) : Nat → Nat → List Char → Run (List Char)
  | 0, _, _ => return []
  | fuel + 1, n, s =>
    match s with
    | [] => return []
    | '\x7b' :: '\x7b' :: r => return '\x7b' :: (← fillBraces g fuel n r)
    | '\x7d' :: '\x7d' :: r => return '\x7d' :: (← fillBraces g fuel n r)
    | '\x7d' :: _ => raise "ValueError" "Single '\x7d' encountered in format string"
    | '\x7b' :: r => do
      match toBrace 0 r with
      | none =>
        raise "ValueError" (if r.isEmpty then "Single '\x7b' encountered in format string"
          else "expected '\x7d' before end of string")
      | some (inner, rest) =>
        let slot := slotOf inner
        let name := slot.path.takeWhile fun c => c != '.' && c != '['
        let more := slot.path.drop name.length
        let (v, n) ← match name, Bytes.toNat? name with
          | [], _ => match g.values[n]? with
            | some v => pure (v, n + 1)
            | none =>
              raise "IndexError" ("Replacement index " ++ toString n
                ++ " out of range for positional args tuple")
          | _, some i => match g.values[i]? with
            | some v => pure (v, n)
            | none =>
              raise "IndexError" ("Replacement index " ++ toString i
                ++ " out of range for positional args tuple")
          | name, none => match g.named.lookup (String.ofList name) with
            | some v => pure (v, n)
            | none => raiseWith "KeyError" [.text name]
        let v ← follow (more.length + 1) v more
        let spec ← if slot.spec.contains '\x7b' then fillBraces g fuel n slot.spec
          else pure slot.spec
        let piece ← converted v slot.conversion spec
        return piece ++ (← fillBraces g fuel n rest)
    | c :: r => return c :: (← fillBraces g fuel n r)

/-! ### What values can do -/

/-- What a value does. -/
def callMethod (call : Call) (self : Value) (name : String) (g : Given) : Run Value := do
  match self with
  | .text s =>
    match name with
    | "format" => return .text (← fillBraces g (s.length + 1) 0 s)
    | "format_map" =>
      let es ← StoreMethod.entriesOf (← g.only name)
      let named := es.filterMap fun (k, v) => match k with
        | .text t => some (String.ofList t, v)
        | _ => none
      return .text (← fillBraces ⟨[], named⟩ (s.length + 1) 0 s)
    | name => TextMethod.call true s name g
  | .bytes s => TextMethod.call false s name g
  | .tuple xs => StoreMethod.callTuple xs name g
  | .range i j k => do
    StoreMethod.callTuple (← rangeValues i j k) name g
  | .float x => match name with
    | "is_integer" => return .bool x.isWhole
    | _ => match x with
      | .finite negative a b => return .tuple [.int (Floating.signed negative a), .int (b : Nat)]
      | _ => raise "ValueError" "cannot convert NaN to integer ratio"
  | .object n =>
    match (← heap)[n]? with
    | some (.list xs) => StoreMethod.callList call n xs name g
    | some (.dict es) => StoreMethod.callDict n es name g
    | some (.set xs) => StoreMethod.callSet n xs name g
    | some (.file f) => StoreMethod.callFile n f name g
    | some (.found m _ p) => StoreMethod.callFound m p name g
    | some (.pattern m s) => SearchModule.use call m s name g
    | some (.fault _ _ _ _) => return self
    | some (.iterator _) => callFunction call "next" (.one self)
    | some (.record _ [("name", .text algorithm), ("data", .bytes data)]) =>
      Library.callDigestMethod n algorithm data name g
    | some (.record _ parts) => TableModule.callWriter call parts name g
    | _ => return .none
  | v =>
    match v.whole?, name with
    | some n, "bit_length" => return .int (if n = 0 then 0 else n.natAbs.log2 + 1 : Nat)
    | some n, "bit_count" =>
      return .int ((Nat.toDigits 2 n.natAbs).count '1' : Nat)
    | some n, "to_bytes" =>
      let size := (← wholeOf ((g.get? 0 "length").getD (.int 1))).toNat
      let bytes := (List.range size).map fun i => Char.ofNat (n.toNat / Nat.pow 256 i % 256)
      let little ← match g.get? 1 "byteorder" with
        | some v => do pure ((← charsOf v) == "little".toList)
        | none => pure false
      return .bytes (if little then bytes else bytes.reverse)
    | some _, _ => return .bool true
    | none, _ => return .none

/-- Call a function that belongs to a kind of values. -/
def callOnKind (call : Call) (kind name : String) (g : Given) : Run Value := do
  match kind, name with
  | "dict", "fromkeys" =>
    let ks ← itemsOf (← g.need name 0 "iterable")
    let v := (g.get? 1 "value").getD .none
    newDict (ks.map fun k => (k, v))
  | "str", "maketrans" =>
    match g.values with
    | [v] =>
      let es ← StoreMethod.entriesOf v
      newDict (es.map fun (k, v) => match k with
        | .text [c] => (.int c.toNat, v)
        | k => (k, v))
    | a :: b :: rest =>
      let from' ← charsOf a
      let targets ← charsOf b
      let gone ← match rest with
        | c :: _ => charsOf c
        | [] => pure []
      newDict ((from'.zip targets).map (fun (c, d) => (.int c.toNat, .text [d]))
        ++ gone.map fun c => (.int c.toNat, .none))
    | [] => g.need name 0 "x"
  | "bytes", "fromhex" =>
    let s ← charsOf (← g.only name)
    return .bytes (Digest.bytesOf (s.filter (!TextMethod.isBlank ·)))
  | "int", "from_bytes" =>
    let s ← charsOf (← g.need name 0 "bytes")
    let little ← match g.get? 1 "byteorder" with
      | some v => do pure ((← charsOf v) == "little".toList)
      | none => pure false
    return .int ((if little then s.reverse else s).foldl (fun n c => n * 256 + c.toNat) 0 : Nat)
  | kind, name =>
    match g.values with
    | self :: rest => callMethod call self name { g with values := rest }
    | [] =>
      raise "TypeError" ("unbound method " ++ kind ++ "." ++ name ++ "() needs an argument")

/-- Call something that is there from the start. -/
def callKnown (call : Call) (name : String) (g : Given) : Run Value := do
  if Value.isType name then make name g
  else if functionNames.contains name then
    match name with
    | "getattr" =>
      let v ← g.need name 0 "object"
      let s := String.ofList (← charsOf (← g.need name 1 "name"))
      match g.get? 2 "default" with
      | none => partOf v s
      | some d => catching (partOf v s) fun _ => return d
    | "hasattr" =>
      let v ← g.need name 0 "object"
      let s := String.ofList (← charsOf (← g.need name 1 "name"))
      catching (do discard (partOf v s); return .bool true) fun _ => return .bool false
    | name => callFunction call name g
  else
    match (name.splitOn ".").reverse with
    | last :: front =>
      let owner := ".".intercalate front.reverse
      if Value.isType owner then callOnKind call owner last g
      else Library.callModule call owner last g
    | [] => return .none

end SvgSkeleton.Shell.Interpreter.Known
