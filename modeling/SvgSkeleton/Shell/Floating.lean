import SvgSkeleton.Binary64
import SvgSkeleton.Shell.Whole

/-!
Numbers with a fraction, as exact quotients that are rounded to the significant bits of a form, and
how they are read at the front of a text.
-/

namespace SvgSkeleton.Shell

/-- A number with a fraction. -/
inductive Floating where
  /-- The quotient of two numbers, of which the second one is positive. -/
  | finite (negative : Bool) (num den : Nat)
  | infinite (negative : Bool)
  | undefined (negative : Bool)
  deriving Repr

namespace Floating

/-- How many significant bits a form has, the exponent of its last bit in the smallest numbers, and
the exponent from which on numbers are too great. -/
structure Form where
  bits : Nat
  least : Int
  tooGreat : Int

def Form.double : Form := ⟨53, -1074, 1024⟩

def Form.extended : Form := ⟨64, -16445, 16384⟩

def zero : Floating := .finite false 0 1

def ofInt (n : Int) : Floating := .finite (n < 0) n.natAbs 1

def isNegative : Floating → Bool
  | .finite n _ _ | .infinite n | .undefined n => n

def negate : Floating → Floating
  | .finite n a b => .finite (!n) a b
  | .infinite n => .infinite (!n)
  | .undefined n => .undefined (!n)

def isFinite : Floating → Bool
  | .finite _ _ _ => true
  | _ => false

def isZero : Floating → Bool
  | .finite _ n _ => n == 0
  | _ => false

/-- A quotient rounded to a form, a tie to the even neighbour. The flag says that the form has no
number that is close to it: it is too great, or so small that bits are lost. -/
def rounded (form : Form) (negative : Bool) (num den : Nat) : Floating × Bool :=
  if num = 0 then (.finite negative 0 1, false)
  else
    let exponent := Binary64.binaryMagnitude num den
    let last := max form.least (exponent - form.bits + 1)
    let top := Binary64.scaled num 2 (-last)
    let bottom := Binary64.scaled den 2 last
    let n := Binary64.roundQuotient top bottom
    let small := exponent < form.least + form.bits - 1 && top % bottom != 0
    if Binary64.binaryMagnitude n 1 + last ≥ form.tooGreat && n != 0 then (.infinite negative, true)
    else (.finite negative (Binary64.scaled n 2 last) (Binary64.scaled 1 2 (-last)), small)

/-- The order of two numbers; nothing if one of them is none. -/
def order? : Floating → Floating → Option Ordering
  | .undefined _, _ | _, .undefined _ => none
  | .infinite a, .infinite b => some (compare b.toNat a.toNat)
  | .infinite a, _ => some (if a then .lt else .gt)
  | _, .infinite b => some (if b then .gt else .lt)
  | .finite a n d, .finite b n' d' =>
    let x : Int := if a then -(n * d' : Nat) else (n * d' : Nat)
    let y : Int := if b then -(n' * d : Nat) else (n' * d : Nat)
    some (compare x y)

/-! ### Reading -/

/-- What has been read at the front of a text. -/
structure Reading where
  value : Floating
  /-- What follows it; all of the text if there is no number. -/
  rest : Bytes
  outOfRange : Bool

/-- The rest of a text behind a word, however its letters are written. -/
def behind? (word : String) (s : Bytes) : Option Bytes :=
  let n := word.length
  if (s.take n).map Char.toLower = word.toList then some (s.drop n) else none

/-- Digits with a point among them: all digits, how many there are behind the point, and what
follows. There must be a digit. -/
def pointed? (isDigit : Char → Bool) (s : Bytes) : Option (Bytes × Nat × Bytes) :=
  let whole := s.takeWhile isDigit
  let (fraction, rest) := match s.drop whole.length with
    | '.' :: r =>
      let f := r.takeWhile isDigit
      if whole.isEmpty && f.isEmpty then ([], s) else (f, r.drop f.length)
    | r => ([], r)
  if whole.isEmpty && fraction.isEmpty then none
  else some (whole ++ fraction, fraction.length, rest)

/-- An exponent behind its letter, and what follows it. Without digits there is none. -/
def exponent (letter : Char) (s : Bytes) : Int × Bytes :=
  match s with
  | c :: r =>
    if c.toLower != letter then (0, s)
    else
      let (negative, r) := match r with
        | '-' :: r => (true, r)
        | '+' :: r => (false, r)
        | r => (false, r)
      let digits := r.takeWhile Char.isDigit
      if digits.isEmpty then (0, s)
      else
        let n : Int := Text.ofDigits 10 digits
        (if negative then -n else n, r.drop digits.length)
  | [] => (0, s)

/-- Exponents beyond this are out of every range. -/
def exponentLimit : Int := 100000

/-- The number that digits write, times a power of the base. -/
def assembled (form : Form) (negative : Bool) (digits base count : Nat) (e : Int) :
    Floating × Bool :=
  if digits = 0 then (.finite negative 0 1, false)
  else if e + count > exponentLimit then (.infinite negative, true)
  else if e + count < -exponentLimit then (.finite negative 0 1, true)
  else rounded form negative (Binary64.scaled digits base e) (Binary64.scaled 1 base (-e))

/-- The number at the front of a text, behind blanks and a sign. -/
def read (form : Form) (s : Bytes) : Reading :=
  let body := s.dropWhile Whole.isSpace
  let (negative, r) := match body with
    | '-' :: r => (true, r)
    | '+' :: r => (false, r)
    | r => (false, r)
  let decimal : Reading :=
    match pointed? Char.isDigit r with
    | none => ⟨zero, s, false⟩
    | some (digits, places, rest) =>
      let (e, rest) := exponent 'e' rest
      let (x, out) :=
        assembled form negative (Text.ofDigits 10 digits) 10 digits.length (e - places)
      ⟨x, rest, out⟩
  let isHex (c : Char) : Bool := (Text.hexValue c).isSome
  match behind? "infinity" r, behind? "inf" r, behind? "nan" r, behind? "0x" r with
  | some rest, _, _, _ | none, some rest, _, _ => ⟨.infinite negative, rest, false⟩
  | _, _, some rest, _ =>
    let rest := match rest with
      | '(' :: t =>
        let inner := t.takeWhile isNameChar
        if (t.drop inner.length).head? = some ')' then t.drop (inner.length + 1) else rest
      | rest => rest
    ⟨.undefined negative, rest, false⟩
  | _, _, _, some t =>
    match pointed? isHex t with
    | none => decimal
    | some (digits, places, rest) =>
      let (e, rest) := exponent 'p' rest
      let n := Whole.ofDigits 16 digits
      let (x, out) := assembled form negative n 2 (4 * digits.length) (e - 4 * places)
      ⟨x, rest, out⟩
  | _, _, _, none => decimal

end Floating

/-! ### Arithmetic

A result is the exact one, rounded to a form; what has no result is no number.
-/

namespace Floating

/-- The result of what has none. -/
def noNumber : Floating := .undefined true

/-- A quotient in its lowest terms. -/
def lowest : Floating → Floating
  | .finite negative num den =>
    let g := Nat.gcd num den
    if g ≤ 1 then .finite negative num den else .finite negative (num / g) (den / g)
  | x => x

/-- A quotient rounded to a form, in its lowest terms. -/
def ofQuotient (form : Form) (negative : Bool) (num den : Nat) : Floating :=
  if den = 1 && num < 1 <<< form.bits then .finite negative num 1
  else lowest (rounded form negative num den).1

/-- The sign as a factor. -/
def signed (negative : Bool) (n : Nat) : Int := if negative then -(n : Int) else n

def add (form : Form) (x y : Floating) : Floating :=
  match x, y with
  | .undefined n, _ | _, .undefined n => .undefined n
  | .infinite a, .infinite b => if a = b then .infinite a else noNumber
  | .infinite a, _ | _, .infinite a => .infinite a
  | .finite m a b, .finite n c d =>
    let sum := signed m (a * d) + signed n (c * b)
    if sum = 0 then .finite (m && n) 0 1
    else ofQuotient form (sum < 0) sum.natAbs (b * d)

def sub (form : Form) (x y : Floating) : Floating :=
  match y with
  | .undefined n => add form x (.undefined n)
  | y => add form x y.negate

def mul (form : Form) (x y : Floating) : Floating :=
  match x, y with
  | .undefined n, _ | _, .undefined n => .undefined n
  | .infinite a, y | y, .infinite a =>
    if y.isZero then noNumber else .infinite (a != y.isNegative)
  | .finite m a b, .finite n c d => ofQuotient form (m != n) (a * c) (b * d)

def div (form : Form) (x y : Floating) : Floating :=
  match x, y with
  | .undefined n, _ | _, .undefined n => .undefined n
  | .infinite _, .infinite _ => noNumber
  | .infinite a, .finite n _ _ => .infinite (a != n)
  | .finite m _ _, .infinite n => .finite (m != n) 0 1
  | .finite m a b, .finite n c d =>
    if c = 0 then if a = 0 then noNumber else .infinite (m != n)
    else ofQuotient form (m != n) (a * d) (b * c)

/-- What is left when a number is divided by another one; it has the sign of the first. -/
def mod (form : Form) (x y : Floating) : Floating :=
  match x, y with
  | .undefined n, _ | _, .undefined n => .undefined n
  | .infinite _, _ => noNumber
  | x, .infinite _ => x
  | .finite m a b, .finite _ c d =>
    if c = 0 then noNumber else ofQuotient form m ((a * d) % (c * b)) (b * d)

/-- The number without its fraction. -/
def truncate : Floating → Floating
  | .finite n a b => .finite n (a / b) 1
  | x => x

/-- The number without its fraction, as an integer; nothing if it has no end or is none. -/
def toInt? : Floating → Option Int
  | .finite n a b => some (signed n (a / b))
  | _ => none

/-- Is it a whole number? -/
def isWhole : Floating → Bool
  | .finite _ a b => a % b == 0
  | _ => false

/-! ### How numbers are shown: with fixed places, with an exponent, or in hexadecimal digits -/

/-- A quotient with some digits behind the point, a tie to the even digit. -/
def showFixed (num den places : Nat) : Bytes :=
  let n := Binary64.roundQuotient (num * Nat.pow 10 places) den
  let ds := Nat.toDigits 10 n
  let ds := List.replicate (places + 1 - ds.length) '0' ++ ds
  let whole := ds.take (ds.length - places)
  if places = 0 then whole else whole ++ '.' :: ds.drop (ds.length - places)

/-- The exponent of the first digit of a positive quotient. -/
def leadingExponent (num den : Nat) : Int :=
  let k : Int := ((Nat.toDigits 10 num).length : Int) - (Nat.toDigits 10 den).length
  if Binary64.scaled num 10 (-k) ≥ Binary64.scaled den 10 k then k else k - 1

/-- The digits and the exponent of a quotient rounded to `places + 1` digits. -/
def scientificParts (num den places : Nat) : Bytes × Int :=
  if num = 0 then (List.replicate (places + 1) '0', 0)
  else
    let e := leadingExponent num den
    let shift : Int := places - e
    let n := Binary64.roundQuotient (Binary64.scaled num 10 shift) (Binary64.scaled den 10 (-shift))
    let ds := Nat.toDigits 10 n
    if ds.length > places + 1 then (ds.take (places + 1), e + 1) else (ds, e)

/-- An exponent of at least so many digits. -/
def showExponent (letter : Char) (least : Nat) (e : Int) : Bytes :=
  let ds := Nat.toDigits 10 e.natAbs
  letter :: (if e < 0 then '-' else '+') :: List.replicate (least - ds.length) '0' ++ ds

/-- Digits with a point behind the first one. -/
def withPoint (always : Bool) (ds : Bytes) : Bytes :=
  match ds with
  | c :: d :: r => c :: '.' :: d :: r
  | [c] => if always then [c, '.'] else [c]
  | [] => []

/-- The digits without the zeros at the end of a fraction. -/
def dropZeros (s : Bytes) : Bytes :=
  if s.contains '.' then
    match (s.reverse.dropWhile (· == '0')) with
    | '.' :: r => r.reverse
    | r => r.reverse
  else s

/-- The hexadecimal digits of a quotient and its exponent. The first digit takes so many bits, and
there are so many digits behind it unless a precision says otherwise. -/
def showHex (form : Form) (first places : Nat) (precision : Option Nat) (always : Bool)
    (num den : Nat) : Bytes :=
  let smallest : Int := form.least + form.bits - 1
  let e := if num = 0 then 0 else max smallest (Binary64.binaryMagnitude num den)
  let shift : Int := 4 * (places : Int) - (e - first + 1)
  let n := Binary64.roundQuotient (Binary64.scaled num 2 shift) (Binary64.scaled den 2 (-shift))
  let n := match precision with
    | some p => if p < places then Binary64.roundQuotient n (Nat.pow 16 (places - p)) else n
    | none => n
  let kept := match precision with
    | some p => min p places
    | none => places
  let ds := Nat.toDigits 16 n
  let ds := List.replicate (kept + 1 - ds.length) '0' ++ ds
  let e := if num = 0 then 0 else e - first + 1
  let (ds, e) := if ds.length > kept + 1 then (ds.dropLast, e + 4) else (ds, e)
  let ds := match precision with
    | some p => ds ++ List.replicate (p - places) '0'
    | none => (ds.take 1) ++ ((ds.drop 1).reverse.dropWhile (· == '0')).reverse
  withPoint always ds ++ showExponent 'p' 1 e

/-- A number as a directive shows it. -/
def shown (form : Form) (flags : Bytes) (conversion : Char) (width : Nat)
    (precision : Option Nat) (x : Floating) : Bytes :=
  let upper := conversion.isUpper
  let cased (s : Bytes) : Bytes := if upper then s.map Char.toUpper else s
  let always := flags.contains '#'
  let word (s : String) : Bytes :=
    inField flags width false (signOf flags x.isNegative) (cased s.toList)
  match x with
  | .infinite _ => word "inf"
  | .undefined _ => word "nan"
  | .finite negative num den =>
    let places := precision.getD 6
    let sign := signOf flags negative
    match conversion.toLower with
    | 'f' =>
      let body := showFixed num den places
      inField flags width true sign (if always && places = 0 then body ++ ['.'] else body)
    | 'e' =>
      let (ds, e) := scientificParts num den places
      inField flags width true sign (cased (withPoint always ds ++ showExponent 'e' 2 e))
    | 'a' =>
      let wide := form.bits > 53
      let body := showHex form (if wide then 4 else 1) (if wide then 15 else 13) precision always
        num den
      inField flags width true (sign ++ cased ['0', 'x']) (cased body)
    | _ =>
      let places := if places = 0 then 1 else places
      let (ds, e) := scientificParts num den (places - 1)
      let trim (s : Bytes) : Bytes := if always then s else dropZeros s
      let body := if e < -4 || e ≥ (places : Int) then
          trim (withPoint always ds) ++ showExponent 'e' 2 e
        else
          let left := ((places : Int) - 1 - e).toNat
          let fixed := showFixed num den left
          if always && left = 0 then fixed ++ ['.'] else trim fixed
      inField flags width true sign (cased body)

end Floating

end SvgSkeleton.Shell
