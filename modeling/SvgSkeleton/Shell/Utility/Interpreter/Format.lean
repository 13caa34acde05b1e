import SvgSkeleton.Shell.Floating
import SvgSkeleton.Shell.Utility.Interpreter.State

/-!
How values are laid out in texts: within a width, with a sign, and with some places behind a point.
-/

namespace SvgSkeleton.Shell.Interpreter

/-- How a value is laid out. -/
structure Layout where
  fill : Char
  align : Option Char
  sign : Char
  alternate : Bool
  zeros : Bool
  width : Nat
  comma : Option Char
  precision : Option Nat
  kind : Option Char

namespace Layout

def isAlign (c : Char) : Bool := c == '<' || c == '>' || c == '^' || c == '='

/-- The layout that a text writes. -/
def ofText? (s : List Char) : Option Layout :=
  let (fill, align, s) : Option Char × Option Char × List Char := match s with
    | c :: d :: r =>
      if isAlign d then (some c, some d, r)
      else if isAlign c then (none, some c, d :: r)
      else (none, none, s)
    | [c] => if isAlign c then (none, some c, []) else (none, none, s)
    | [] => (none, none, [])
  let (sign, s) : Char × List Char := match s with
    | c :: r => if c = '+' || c = '-' || c = ' ' then (c, r) else ('-', s)
    | [] => ('-', [])
  let (alternate, s) : Bool × List Char := match s with
    | '#' :: r => (true, r)
    | s => (false, s)
  let (zeros, s) : Bool × List Char := match s with
    | '0' :: r => (true, r)
    | s => (false, s)
  let digits := s.takeWhile Char.isDigit
  let s := s.drop digits.length
  let (comma, s) : Option Char × List Char := match s with
    | ',' :: r => (some ',', r)
    | '_' :: r => (some '_', r)
    | s => (none, s)
  let (precision, s) : Option Nat × List Char := match s with
    | '.' :: r =>
      let ds := r.takeWhile Char.isDigit
      (some (Text.ofDigits 10 ds), r.drop ds.length)
    | s => (none, s)
  let layout (kind : Option Char) : Layout :=
    ⟨fill.getD (if zeros then '0' else ' '), align, sign, alternate, zeros,
      Text.ofDigits 10 digits, comma, precision, kind⟩
  match s with
  | [] => some (layout none)
  | [c] => some (layout (some c))
  | _ => none

/-- Is there a number that no word can hold? -/
def excessive (l : Layout) : Bool := 1 <<< 63 ≤ l.width || 1 <<< 63 ≤ l.precision.getD 0

/-- Is the precision greater than that of any number? -/
def unprecise (l : Layout) : Bool := 1 <<< 31 ≤ l.precision.getD 0

/-- A text within the width. The usual place is given; the sign may stand apart. -/
def placed (l : Layout) (usual : Char) (sign body : List Char) : List Char :=
  let missing := l.width - (sign.length + body.length)
  let fill (n : Nat) : List Char := List.replicate n l.fill
  match l.align.getD usual with
  | '<' => sign ++ body ++ fill missing
  | '^' => fill (missing / 2) ++ sign ++ body ++ fill (missing - missing / 2)
  | '=' => sign ++ fill missing ++ body
  | _ => fill missing ++ sign ++ body

/-- Digits with a mark in front of every group. -/
def grouped (size : Nat) (mark : Char) (digits : List Char) : List Char :=
  let n := digits.length
  digits.zipIdx.flatMap fun (c, i) => if 0 < i && (n - i) % size = 0 then [mark, c] else [c]

/-- The sign of a number. -/
def signText (l : Layout) (negative : Bool) : List Char :=
  if negative then ['-'] else if l.sign = '-' then [] else [l.sign]

/-- A number within the width: its digits, and what stands behind them. -/
def number (l : Layout) (negative : Bool) (mark digits rest : List Char) (size : Nat) : List Char :=
  let sign := l.signText negative ++ mark
  let usual := if l.zeros then '=' else '>'
  match l.comma with
  | none => l.placed usual sign (digits ++ rest)
  | some c =>
    let body := grouped size c digits
    if l.align.getD usual = '=' && l.fill = '0' then
      let room := l.width - sign.length - rest.length
      let more (ds : List Char) : List Char := '0' :: ds
      let filled := (List.range room).foldl (fun ds _ =>
        if (grouped size c ds).length < room then more ds else ds) digits
      sign ++ grouped size c filled ++ rest
    else l.placed usual sign (body ++ rest)

/-- A number with a fraction as it is laid out. -/
def float (l : Layout) (x : Floating) : List Char :=
  let flags := if l.alternate then ['#'] else []
  let size : Floating := match x with
    | .finite _ a b => .finite false a b
    | .infinite _ => .infinite false
    | .undefined _ => .undefined false
  let shown (c : Char) (precision : Option Nat) : List Char :=
    Floating.shown .double flags c 0 precision size
  let body := match l.kind with
    | none => match l.precision with
      | none => Value.showFloat size
      | some n =>
        let s := shown 'g' (some (max n 1))
        if s.all Char.isDigit && s.length < max n 1 then s ++ ['.', '0'] else s
    | some '%' =>
      Floating.shown .double flags 'f' 0 l.precision
        (Floating.mul .double size (Floating.ofInt 100)) ++ ['%']
    | some 'n' => shown 'g' l.precision
    | some c => shown c l.precision
  let digits := body.takeWhile Char.isDigit
  l.number x.isNegative [] digits (body.drop digits.length) 3

/-- A whole number as it is laid out. -/
def whole (l : Layout) (n : Int) : Except String (List Char) :=
  let based (base : Nat) (mark : List Char) (upper : Bool) : List Char :=
    let ds := Nat.toDigits base n.natAbs
    let ds := if upper then ds.map Char.toUpper else ds
    l.number (n < 0) (if l.alternate then mark else []) ds [] 4
  match l.kind with
  | none | some 'd' | some 'n' =>
    if l.precision.isSome then .error "Precision not allowed in integer format specifier"
    else .ok (l.number (n < 0) [] (Bytes.ofNat n.natAbs) [] 3)
  | some 'x' => .ok (based 16 ['0', 'x'] false)
  | some 'X' => .ok (based 16 ['0', 'X'] true)
  | some 'o' => .ok (based 8 ['0', 'o'] false)
  | some 'b' => .ok (based 2 ['0', 'b'] false)
  | some 'c' => .ok (l.placed '<' [] [Char.ofNat n.toNat])
  | some c =>
    if "eEfFgG%".toList.contains c then
      .ok (l.float (Floating.ofQuotient .double (n < 0) n.natAbs 1))
    else .error (wrongKind c "int")
where
  wrongKind (c : Char) (kind : String) : String :=
    "Unknown format code '" ++ String.ofList [c] ++ "' for object of type '" ++ kind ++ "'"

/-- A value as it is laid out by a text. -/
def value (h : Heap) (v : Value) (spec : List Char) : Except String (List Char) :=
  if spec.isEmpty then .ok (v.toText h)
  else
    let kind := v.kindName h
    match ofText? spec with
    | none =>
      .error ("Invalid format specifier '" ++ String.ofList spec ++ "' for object of type '" ++ kind
        ++ "'")
    | some l =>
      match v with
      | .int n => l.whole n
      | .bool b => match l.kind with
        | none => .ok (l.placed '<' [] (v.toText h))
        | some _ => l.whole b.toInt
      | .float x =>
        if l.kind.all fun c => "eEfFgGn%".toList.contains c then .ok (l.float x)
        else .error (whole.wrongKind (l.kind.getD ' ') kind)
      | .text s =>
        if l.kind.all (· == 's') then
          .ok (l.placed '<' [] (match l.precision with
            | some n => s.take n
            | none => s))
        else .error (whole.wrongKind (l.kind.getD ' ') kind)
      | _ => .error ("unsupported format string passed to " ++ kind ++ ".__format__")

end Layout

/-! ### Texts with places for values -/

/-- A place for a value that begins with a percent sign. -/
structure Place where
  name : Option (List Char)
  flags : List Char
  width : Option Nat
  /-- The width and the precision are values. -/
  givenWidth : Bool
  precision : Option Nat
  givenPrecision : Bool
  kind : Char

/-- The place behind a percent sign, and what follows. -/
def place? (s : List Char) : Option (Place × List Char) :=
  let (name, s) : Option (List Char) × List Char := match s with
    | '(' :: r =>
      let n := r.takeWhile (· != ')')
      (some n, r.drop (n.length + 1))
    | s => (none, s)
  let flags := s.takeWhile fun c => "-+ 0#".toList.contains c
  let s := s.drop flags.length
  let (givenWidth, s) : Bool × List Char := match s with
    | '*' :: r => (true, r)
    | s => (false, s)
  let digits := s.takeWhile Char.isDigit
  let s := s.drop digits.length
  let (precision, givenPrecision, s) : Option Nat × Bool × List Char := match s with
    | '.' :: '*' :: r => (none, true, r)
    | '.' :: r =>
      let ds := r.takeWhile Char.isDigit
      (some (Text.ofDigits 10 ds), false, r.drop ds.length)
    | s => (none, false, s)
  match s.dropWhile fun c => c == 'l' || c == 'h' || c == 'L' with
  | [] => none
  | c :: r =>
    let width := if digits.isEmpty then none else some (Text.ofDigits 10 digits)
    some (⟨name, flags, width, givenWidth, precision, givenPrecision, c⟩, r)

/-- A value in a place. -/
def Place.filled (h : Heap) (p : Place) (v : Value) : Except (String × String) (List Char) :=
  let left := p.flags.contains '-'
  let zeros := p.flags.contains '0' && !left
  let sign := if p.flags.contains '+' then '+' else if p.flags.contains ' ' then ' ' else '-'
  let layout (kind : Option Char) (number : Bool) : Layout :=
    { fill := if zeros && number then '0' else ' ', align := if left then some '<' else none
      sign := sign, alternate := p.flags.contains '#', zeros := zeros && number
      width := p.width.getD 0, comma := none, precision := p.precision, kind := kind }
  let text (s : List Char) : List Char :=
    (layout none false).placed '>' [] (match p.precision with
      | some n => s.take n
      | none => s)
  let wrong (rest : String) : Except (String × String) (List Char) :=
    .error ("TypeError", "%" ++ String.ofList [p.kind] ++ " format: " ++ rest ++ ", not "
      ++ v.kindName h)
  let whole? : Option Int := match v with
    | .float x => if p.kind = 'd' || p.kind = 'i' || p.kind = 'u' then x.toInt? else none
    | v => v.whole?
  match p.kind with
  | 's' => .ok (text (v.toText h))
  | 'r' => .ok (text (v.shown h))
  | 'a' => .ok (text (v.shown h))
  | 'c' => match v with
    | .text [c] => .ok (text [c])
    | .int n => .ok (text [Char.ofNat n.toNat])
    | _ => .error ("TypeError", "%c requires int or char")
  | 'd' | 'i' | 'u' => match whole? with
    | none => wrong "a real number is required"
    | some n =>
      let ds := Bytes.ofNat n.natAbs
      let ds := List.replicate (p.precision.getD 0 - ds.length) '0' ++ ds
      .ok ({ layout (some 'd') true with precision := none }.number (n < 0) [] ds [] 3)
  | 'x' | 'X' | 'o' => match whole? with
    | none => wrong "an integer is required"
    | some n =>
      match { layout (some p.kind) true with precision := none }.whole n with
      | .ok s => .ok s
      | .error e => .error ("ValueError", e)
  | c =>
    if "eEfFgG".toList.contains c then
      match v.number? with
      | some x => .ok ((layout (some c) true).float x)
      | none => .error ("TypeError", "must be real number, not " ++ v.kindName h)
    else
      .error ("ValueError", "unsupported format character '" ++ String.ofList [c] ++ "' (0x"
        ++ String.ofList (Nat.toDigits 16 c.toNat) ++ ")")

/-- Complain of a place that is too wide or too precise. -/
def Place.check (p : Place) : Except (String × String) Unit :=
  let width := p.width.getD 0
  let precision := p.precision.getD 0
  if 1 <<< 63 ≤ width then .error ("ValueError", "width too big")
  else if 1 <<< 31 ≤ precision then .error ("ValueError", "precision too big")
  else if Value.sizeLimit < width || (Value.sizeLimit < precision && p.kind != 's') then
    .error ("MemoryError", "")
  else .ok ()

/-- Values for the places in a text. -/
structure Supplied where
  values : List Value
  /-- Values with names. -/
  entries : Option (Array (Value × Value))

/-- A text with values in its places. -/
def filledIn (h : Heap) : Nat → Supplied → List Char → Except (String × String) (List Char)
  | 0, _, _ => .ok []
  | _ + 1, given, [] =>
    if given.values.isEmpty || given.entries.isSome then .ok []
    else .error ("TypeError", "not all arguments converted during string formatting")
  | fuel + 1, given, '%' :: '%' :: r => do
    return '%' :: (← filledIn h fuel given r)
  | fuel + 1, given, '%' :: r =>
    match place? r with
    | none => .error ("ValueError", "incomplete format")
    | some (p, rest) => do
      let short : Except (String × String) (Value × List Value) :=
        .error ("TypeError", "not enough arguments for format string")
      let next (vs : List Value) : Except (String × String) (Value × List Value) := match vs with
        | v :: vs => .ok (v, vs)
        | [] => short
      match p.name with
      | some name =>
        match given.entries with
        | none => .error ("TypeError", "format requires a mapping")
        | some es =>
          match Value.find (Value.equal h) (.text name) es with
          | none => .error ("KeyError", String.ofList name)
          | some i =>
            p.check
            let s ← p.filled h (es.getD i (.none, .none)).2
            return s ++ (← filledIn h fuel given rest)
      | none =>
        let (width, vs) ← if p.givenWidth then do
            let (v, vs) ← next given.values
            pure ((v.whole?).map Int.toNat, vs)
          else pure (p.width, given.values)
        let (precision, vs) ← if p.givenPrecision then do
            let (v, vs) ← next vs
            pure ((v.whole?).map Int.toNat, vs)
          else pure (p.precision, vs)
        let (v, vs) ← next vs
        let p := { p with width := width, precision := precision }
        p.check
        let s ← p.filled h v
        return s ++ (← filledIn h fuel { given with values := vs } rest)
  | fuel + 1, given, c :: r => do
    return c :: (← filledIn h fuel given r)

end SvgSkeleton.Shell.Interpreter
