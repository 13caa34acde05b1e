import SvgSkeleton.Shell.Utility.Interpreter.State

/-!
Values as texts that other programs read: lists in brackets, and names with values in braces.
-/

namespace SvgSkeleton.Shell.Interpreter.Exchange

/-! ### Writing -/

/-- How values are written. -/
structure Style where
  /-- What a line is set in by for every level; without it all is in one line. -/
  indent : Option (List Char)
  sorted : Bool
  itemMark : List Char
  keyMark : List Char
  /-- Are greater characters written with escapes? -/
  ascii : Bool

/-- The escape for half a character. -/
def unitEscape (n : Nat) : List Char := '\\' :: 'u' :: Value.hexDigits 4 n

/-- A character within quotes. -/
def charText (ascii : Bool) (c : Char) : List Char :=
  let n := c.toNat
  if c = '"' then ['\\', '"'] else if c = '\\' then ['\\', '\\']
  else if c = '\n' then ['\\', 'n'] else if c = '\x0d' then ['\\', 'r']
  else if c = '\t' then ['\\', 't'] else if n = 12 then ['\\', 'f'] else if n = 8 then ['\\', 'b']
  else if n < 32 then unitEscape n
  else if !ascii || n < 127 then [c]
  else if n < 0x10000 then unitEscape n
  else
    let m := n - 0x10000
    unitEscape (0xd800 + m / 0x400) ++ unitEscape (0xdc00 + m % 0x400)

def textText (ascii : Bool) (s : List Char) : List Char :=
  '"' :: s.flatMap (charText ascii) ++ ['"']

/-- A number with a fraction; those without an end have names. -/
def floatText (x : Floating) : List Char :=
  match x with
  | .undefined _ => "NaN".toList
  | .infinite negative => if negative then "-Infinity".toList else "Infinity".toList
  | x => Value.showFloat x

/-- The text of a value that holds no others. -/
def plain? (ascii : Bool) (v : Value) : Option (List Char) :=
  match v with
  | .none => some "null".toList
  | .bool b => some (if b then "true".toList else "false".toList)
  | .int n => some (Bytes.ofInt n)
  | .float x => some (floatText x)
  | .text s => some (textText ascii s)
  | _ => none

/-- The name that a key is written as. -/
def keyText? (v : Value) : Option (List Char) :=
  match v with
  | .text s => some s
  | v => plain? true v

/-- Pieces between brackets, in lines of their own if the style says so. -/
def enclosed (style : Style) (level : Nat) (first last : Char) (pieces : List (List Char)) :
    List Char :=
  if pieces.isEmpty then [first, last]
  else
    let line (n : Nat) : List Char := match style.indent with
      | none => []
      | some s => '\n' :: (List.replicate n s).flatten
    first :: line (level + 1) ++ List.intercalate (style.itemMark ++ line (level + 1)) pieces
      ++ line level ++ [last]

/-- The text of a value. Of what has none another value is taken. -/
def written (style : Style) (instead : Value → Run Value) : Nat → Nat → Value → Run (List Char)
  | 0, _, _ => raise "ValueError" "Circular reference detected"
  | fuel + 1, level, v => do
    match plain? style.ascii v with
    | some s => return s
    | none =>
      let inner := written style instead fuel (level + 1)
      match v, ← objectOf? v with
      | .tuple xs, _ => return enclosed style level '[' ']' (← xs.mapM inner)
      | _, some (.list xs) => return enclosed style level '[' ']' (← xs.toList.mapM inner)
      | _, some (.dict es) =>
        let entries ← if style.sorted then do
            if es.any (fun e => !(e.1 matches .text _))
              && es.any (fun e => e.1 matches .text _) then
              raise "TypeError" "'<' not supported between instances of 'int' and 'str'"
            let h ← heap
            pure (es.toList.mergeSort fun a b => Value.order? h a.1 b.1 != some .gt)
          else pure es.toList
        let pieces ← entries.mapM fun (k, v) => do
          match keyText? k with
          | none =>
            raise "TypeError" ("keys must be str, int, float, bool or None, not "
              ++ k.kindName (← heap))
          | some s => return textText style.ascii s ++ style.keyMark ++ (← inner v)
        return enclosed style level '\x7b' '\x7d' pieces
      | _, _ => written style instead fuel level (← instead v)

/-! ### Reading -/

/-- What is left of a text, how much of it has been read, and what values refer to. -/
structure Reading where
  rest : List Char
  index : Nat
  heap : Heap

/-- A reader fails with a message, and the place that it is about. -/
abbrev Read := StateT Reading (Except (String × Nat))

def failAt {α : Type} (message : String) (index : Nat) : Read α := throw (message, index)

def fail {α : Type} (message : String) : Read α := do failAt message (← get).index

def noValue : String := "Expecting value"

def skip (n : Nat) : Read Unit := modify fun s =>
  { s with rest := s.rest.drop n, index := s.index + n }

def next? : Read (Option Char) := return (← get).rest.head?

/-- Leave out blanks. -/
def skipGap : Read Unit := do
  let gap := (← get).rest.takeWhile fun c => c == ' ' || c == '\t' || c == '\n' || c == '\x0d'
  skip gap.length

def make (o : Object) : Read Value := modifyGet fun s =>
  (.object s.heap.size, { s with heap := s.heap.push o })

/-- The number that the next four digits write. -/
def unit (mark : Nat) : Read Nat := do
  let ds := ((← get).rest.take 4)
  if ds.length < 4 || !(ds.all fun c => (Text.hexValue c).isSome) then
    failAt "Invalid \\uXXXX escape" mark
  skip 4
  return ds.foldl (fun n c => n * 16 + (Text.hexValue c).getD 0) 0

/-- The rest of a text within quotes; the place is that of the first quote. -/
def textFrom (start : Nat) : Nat → List Char → Read (List Char)
  | 0, _ => failAt "Unterminated string starting at" start
  | fuel + 1, done => do
    let s ← get
    match s.rest with
    | [] => failAt "Unterminated string starting at" start
    | '"' :: _ =>
      skip 1
      return done.reverse
    | '\\' :: [] => failAt "Unterminated string starting at" start
    | '\\' :: 'u' :: _ =>
      skip 2
      let n ← unit (s.index + 1)
      let low ← if 0xd800 ≤ n && n < 0xdc00 then do
          match (← get).rest with
          | '\\' :: 'u' :: r =>
            let ds := r.take 4
            let m := ds.foldl (fun n c => n * 16 + (Text.hexValue c).getD 0) 0
            if ds.length = 4 && ds.all (fun c => (Text.hexValue c).isSome) && 0xdc00 ≤ m
                && m < 0xe000 then
              skip 6
              pure (some m)
            else pure none
          | _ => pure none
        else pure none
      let c := match low with
        | some m => Char.ofNat (0x10000 + (n - 0xd800) * 0x400 + (m - 0xdc00))
        | none => if 0xd800 ≤ n && n < 0xe000 then Char.ofNat 0xfffd else Char.ofNat n
      textFrom start fuel (c :: done)
    | '\\' :: c :: _ =>
      let letters : List (Char × Char) :=
        [('"', '"'), ('\\', '\\'), ('/', '/'), ('b', '\x08'), ('f', '\x0c'), ('n', '\n'),
         ('r', '\x0d'), ('t', '\t')]
      match letters.lookup c with
      | none => failAt "Invalid \\escape" s.index
      | some d =>
        skip 2
        textFrom start fuel (d :: done)
    | c :: _ =>
      if c.toNat < 32 then fail "Invalid control character at"
      skip 1
      textFrom start fuel (c :: done)

/-- Read a text whose first quote comes next. -/
def text : Read (List Char) := do
  let s ← get
  skip 1
  textFrom s.index (s.rest.length + 1) []

/-- Read a number. -/
def number : Read Value := do
  let s := (← get).rest
  let sign := s.takeWhile (· == '-')
  let body := s.drop sign.length
  let digits := body.takeWhile Char.isDigit
  let digits := if digits.head? = some '0' then ['0'] else digits
  if 1 < sign.length || digits.isEmpty then fail noValue
  let rest := body.drop digits.length
  let fraction := match rest with
    | '.' :: r =>
      let ds := r.takeWhile Char.isDigit
      if ds.isEmpty then [] else '.' :: ds
    | _ => []
  let rest := rest.drop fraction.length
  let power := match rest with
    | e :: r =>
      if e = 'e' || e = 'E' then
        let mark := (r.take 1).takeWhile fun c => c == '+' || c == '-'
        let ds := (r.drop mark.length).takeWhile Char.isDigit
        if ds.isEmpty then [] else 'e' :: mark ++ ds
      else []
    | [] => []
  skip (sign.length + digits.length + fraction.length + power.length)
  if fraction.isEmpty && power.isEmpty then
    let n : Int := Text.ofDigits 10 digits
    return .int (if sign.isEmpty then n else -n)
  else return .float (Floating.read .double (sign ++ digits ++ fraction ++ power)).value

/-- The words that stand for values. -/
def words : List (String × Value) :=
  [("null", .none), ("true", .bool true), ("false", .bool false),
   ("NaN", .float (.undefined false)), ("Infinity", .float (.infinite false)),
   ("-Infinity", .float (.infinite true))]

/-- An entry in place of the one with its name. -/
def withName (entries : Array (Value × Value)) (k : List Char) (v : Value) :
    Array (Value × Value) :=
  let isThis (e : Value × Value) : Bool := match e.1 with
    | .text s => s == k
    | _ => false
  match entries.findIdx? isThis with
  | some i => entries.modify i fun e => (e.1, v)
  | none => entries.push (.text k, v)

mutual

/-- Read a value. -/
def value : Nat → Read Value
  | 0 => fail noValue
  | fuel + 1 => do
    let s := (← get).rest
    match s with
    | '"' :: _ => return .text (← text)
    | '[' :: _ =>
      skip 1
      skipGap
      if (← next?) = some ']' then
        skip 1
        make (.list #[])
      else
        let xs ← items fuel #[]
        make (.list xs)
    | '\x7b' :: _ =>
      skip 1
      skipGap
      if (← next?) = some '\x7d' then
        skip 1
        make (.dict #[])
      else
        let es ← entries fuel #[]
        make (.dict es)
    | s =>
      match words.find? fun w => w.1.toList.isPrefixOf s with
      | some (w, v) =>
        skip w.length
        return v
      | none => number

/-- Read the items of a list up to its end. -/
def items : Nat → Array Value → Read (Array Value)
  | 0, _ => fail noValue
  | fuel + 1, done => do
    let v ← value fuel
    skipGap
    match ← next? with
    | some ']' =>
      skip 1
      return done.push v
    | some ',' =>
      skip 1
      skipGap
      items fuel (done.push v)
    | _ => fail "Expecting ',' delimiter"

/-- Read names with values up to the end. -/
def entries : Nat → Array (Value × Value) → Read (Array (Value × Value))
  | 0, _ => fail noValue
  | fuel + 1, done => do
    unless (← next?) = some '"' do fail "Expecting property name enclosed in double quotes"
    let k ← text
    skipGap
    unless (← next?) = some ':' do fail "Expecting ':' delimiter"
    skip 1
    skipGap
    let v ← value fuel
    skipGap
    let more := withName done k v
    match ← next? with
    | some '\x7d' =>
      skip 1
      return more
    | some ',' =>
      skip 1
      skipGap
      entries fuel more
    | _ => fail "Expecting ',' delimiter"

end

/-- Read a text that is nothing but a value. -/
def whole (length : Nat) : Read Value := do
  skipGap
  let v ← value (2 * length + 2)
  skipGap
  unless (← get).rest.isEmpty do fail "Extra data"
  return v

/-- A message with the place in a text that it is about. -/
def located (s : List Char) (message : String) (index : Nat) : String :=
  let before := s.take index
  let line := before.count '\n' + 1
  let column := (before.reverse.takeWhile (· != '\n')).length + 1
  message ++ ": line " ++ toString line ++ " column " ++ toString column ++ " (char "
    ++ toString index ++ ")"

/-! ### Where it fails -/

def readerFolder : String := "/usr/lib/python3.12/json/"

/-- Something that is done within functions of the module. -/
def within {α : Type} (frames : List Frame) (act : Run α) : Run α :=
  frames.foldr (fun f act => inFrame f.file f.name f.line f.source act) act

/-- A line of a function, of which the second part is underlined. -/
def underlined (before part : String) : List String :=
  [before ++ part,
    String.ofList (List.replicate before.length ' ' ++ List.replicate part.length '^')]

def loadFrame : Frame :=
  ⟨readerFolder ++ "__init__.py", "load", 293, underlined "return " "loads(fp.read(),"⟩

def loadsFrame : Frame :=
  ⟨readerFolder ++ "__init__.py", "loads", 346,
    underlined "return " "_default_decoder.decode(s)"⟩

/-- The functions in which a message about a text is raised. -/
def readFrames (message : String) : List Frame :=
  let decoder := readerFolder ++ "decoder.py"
  if message = "Extra data" then
    [⟨decoder, "decode", 340, ["raise JSONDecodeError(\"Extra data\", s, end)"]⟩]
  else
    let decode : Frame := ⟨decoder, "decode", 337,
      underlined "obj, end = " "self.raw_decode(s, idx=_w(s, 0).end())"⟩
    if message = noValue then
      [decode, ⟨decoder, "raw_decode", 355,
        ["raise JSONDecodeError(\"Expecting value\", s, err.value) from None"]⟩]
    else
      [decode, ⟨decoder, "raw_decode", 353,
        underlined "obj, end = " "self.scan_once(s, idx)"⟩]

/-- The value that a text writes. -/
def read (s : List Char) : Run Value := within [loadsFrame] do
  if s.head? = some (Char.ofNat 0xfeff) then
    raise "json.decoder.JSONDecodeError"
      (located s "Unexpected UTF-8 BOM (decode using utf-8-sig)" 0)
  match (whole s.length).run ⟨s, 0, ← heap⟩ with
  | .ok (v, r) =>
    modify fun st => { st with heap := r.heap }
    return v
  | .error (message, index) =>
    within (readFrames message) do
      raise "json.decoder.JSONDecodeError" (located s message index)

/-- Complain of a value that has no text. -/
def unwritable (v : Value) : Run Value := do
  let encoder := readerFolder ++ "encoder.py"
  within
    [⟨encoder, "default", 180, ["raise TypeError(f'Object of type \x7bo.__class__.__name__\x7d '"]⟩]
    do raise "TypeError" ("Object of type " ++ v.kindName (← heap) ++ " is not JSON serializable")

/-- The functions in which a value is written. -/
def writeFrames : List Frame :=
  [⟨readerFolder ++ "__init__.py", "dumps", 231,
     underlined "return " "_default_encoder.encode(obj)"⟩,
   ⟨readerFolder ++ "encoder.py", "encode", 200,
     underlined "chunks = " "self.iterencode(o, _one_shot=True)"⟩,
   ⟨readerFolder ++ "encoder.py", "iterencode", 258,
     underlined "return " "_iterencode(o, 0)"⟩]

end SvgSkeleton.Shell.Interpreter.Exchange
