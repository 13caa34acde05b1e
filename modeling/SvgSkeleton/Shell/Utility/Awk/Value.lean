import SvgSkeleton.Shell.Floating.Elementary
import SvgSkeleton.Shell.Floating

/-!
The values of `awk`: numbers and texts, which are made of each other where that is needed. A text
that comes from outside counts as a number if it looks like one.
-/

namespace SvgSkeleton.Shell.Awk

inductive Value where
  /-- Of a variable that nothing has been given to. -/
  | none
  | number (x : Floating)
  | text (s : Bytes)
  /-- A text from outside. -/
  | given (s : Bytes)
  deriving Repr

/-- The form of numbers. -/
def form : Floating.Form := .double

def ofNat (n : Nat) : Value := .number (.finite false n 1)

def ofInt (n : Int) : Value := .number (.ofInt n)

def ofBool (b : Bool) : Value := ofNat b.toNat

/-- The number at the front of a text. -/
def numberIn (s : Bytes) : Floating := (Floating.read form s).value

/-- Does a text look like a number, between blanks? -/
def looksNumeric (s : Bytes) : Bool :=
  let body := ((s.dropWhile isSpaceByte).reverse.dropWhile isSpaceByte).reverse
  body.head?.any (fun c => c.isDigit || c == '+' || c == '-' || c == '.')
    && body.getLast?.any (fun c => c.isDigit || c == '.')
    && (Floating.read form body).rest.isEmpty

namespace Value

def toNumber : Value → Floating
  | .none => .zero
  | .number x => x
  | .text s | .given s => numberIn s

/-- Is the value a number where it is compared? -/
def isNumeric : Value → Bool
  | .none | .number _ => true
  | .text _ => false
  | .given s => looksNumeric s

/-- Does the value count as true? -/
def isTrue : Value → Bool
  | .none => false
  | .number x => !x.isZero
  | .text s => !s.isEmpty
  | .given s => if looksNumeric s then !(numberIn s).isZero else !s.isEmpty

end Value

/-! ### Numbers as texts -/

/-- The least number that is too great for 64 bits without a sign. -/
def wordLimit : Int := Int.pow 2 64

/-- The least number that is too great for 64 bits with a sign. -/
def signedLimit : Int := Int.pow 2 63

/-- A whole number as it is shown; nothing if it is too great. -/
def wholeText? (x : Floating) : Option Bytes :=
  match x with
  | .finite negative num den =>
    if num % den != 0 then none
    else
      let n := Floating.signed negative (num / den)
      if -signedLimit ≤ n && n < wordLimit then some (Bytes.ofInt n)
      else if n = wordLimit then some (Bytes.ofInt (wordLimit - 1))
      else none
  | _ => none

/-- The whole number of 64 bits that is shown for a number. -/
def wordOf (x : Floating) : Int :=
  match x with
  | .finite negative num den =>
    let n := Floating.signed negative (num / den)
    if n ≤ -signedLimit then 1 - signedLimit else if n ≥ wordLimit then wordLimit - 1 else n
  | .infinite negative => if negative then 1 - signedLimit else wordLimit - 1
  | .undefined _ => -signedLimit

/-! ### Formats -/

/-- Why a format cannot be filled. -/
inductive FormatFault where
  | missing
  /-- The number of the directive. -/
  | improper (n : Nat)
  deriving DecidableEq

/-- Is the conversion one for whole numbers? -/
def isInteger (c : Char) : Bool := "dioxXu".toList.contains c

/-- A directive at the front of a text, and what follows; stars are filled by values. -/
structure Parsed where
  flags : Bytes
  width : Nat
  precision : Option Nat
  long : Bool
  conversion : Char
  rest : Bytes
  values : List Value

/-- A number that digits or a star write. A negative one has a flag of its own. -/
def extentOf (s : Bytes) (values : List Value) :
    Except FormatFault (Option Int × Bytes × List Value) :=
  match s with
  | '*' :: r =>
    match values with
    | v :: values => .ok (some (Extent.wrapped (wordOf v.toNumber)), r, values)
    | [] => .error .missing
  | s =>
    let digits := s.takeWhile Char.isDigit
    .ok (if digits.isEmpty then none else some (Text.ofDigits 10 digits : Nat),
      s.drop digits.length, values)

/-- Read a directive. -/
def directive (s : Bytes) (values : List Value) : Except FormatFault Parsed := do
  let flags := s.takeWhile fun c => "-+ #0".toList.contains c
  let (width, r, values) ← extentOf (s.drop flags.length) values
  let (precision, r, values) ← match r with
    | '.' :: t => do
      let (p, r, values) ← extentOf t values
      pure (some (p.getD 0), r, values)
    | r => pure (none, r, values)
  let sizes := r.takeWhile fun c => c == 'h' || c == 'l' || c == 'L'
  let r := r.drop sizes.length
  let flags := if width.any (· < 0) then '-' :: flags else flags
  return ⟨flags, (width.getD 0).natAbs, (precision.filter (0 ≤ ·)).map Int.toNat, !sizes.isEmpty,
    r.headD '\x00', r.drop 1, values⟩

/-- Is an extent of the directive greater than the greatest? Then it shows nothing. -/
def Parsed.excessive (p : Parsed) : Bool :=
  Extent.greatest < p.width || p.precision.any (Extent.greatest < ·)

/-- A value as a directive shows it; nothing if it is no directive. -/
def Parsed.show? (p : Parsed) (toText : Value → Bytes) (v : Value) : Option Bytes :=
  if p.excessive && (isInteger p.conversion || "eEfFgGsc".toList.contains p.conversion) then some []
  else if isInteger p.conversion then
    some (showInteger p.flags (if p.conversion = 'i' then 'd' else p.conversion) p.width p.precision
      (wordOf v.toNumber))
  else if p.long then none
  else if "eEfFgG".toList.contains p.conversion then
    some (Floating.shown form p.flags p.conversion p.width p.precision v.toNumber)
  else if p.conversion = 's' then
    let s := toText v
    some (inField p.flags p.width false [] (match p.precision with
      | some n => s.take n
      | none => s))
  else if p.conversion = 'c' then
    let c : Bytes := match v with
      | .number x => [Char.ofNat ((wordOf x % 256).toNat)]
      | v => [((toText v).headD '\x00')]
    some (inField p.flags p.width false [] c)
  else none

/-- A format filled with values, and what ends it early. -/
def filled (toText : Value → Bytes) : Nat → Nat → Bytes → List Value → Bytes × Option FormatFault
  | 0, _, _, _ => ([], none)
  | _ + 1, _, [], _ => ([], none)
  | fuel + 1, n, '%' :: '%' :: r, values =>
    let (out, fault) := filled toText fuel n r values
    ('%' :: out, fault)
  | fuel + 1, n, '%' :: r, values =>
    match directive r values with
    | .error f => ([], some f)
    | .ok p =>
      match p.values with
      | [] => ([], some .missing)
      | v :: values =>
        match p.show? toText v with
        | none => ([], some (.improper n))
        | some s =>
          let (out, fault) := filled toText fuel (n + 1) p.rest values
          (s ++ out, fault)
  | fuel + 1, n, c :: r, values =>
    let (out, fault) := filled toText fuel n r values
    (c :: out, fault)

/-- A value as a text, where numbers that are not whole have a format. -/
def textIn (format : Bytes) : Value → Bytes
  | .none => []
  | .text s | .given s => s
  | .number x =>
    match wholeText? x with
    | some s => s
    | none => (filled (fun _ => []) (format.length + 1) 1 format [.number x]).1

end SvgSkeleton.Shell.Awk
