import SvgSkeleton.Shell.Bytes

/-!
Whole numbers in texts: at the front of any text, in the directives of formats, and as amounts.

In front of a text, the first digits may tell the base. A number that is too great for its kind
becomes the greatest one.
-/

namespace SvgSkeleton.Shell

/-- A number at the front of a text. -/
structure Whole where
  value : Int
  /-- What follows it; all of the text if there is no number. -/
  rest : Bytes
  /-- Was the number too great? -/
  clamped : Bool

namespace Whole

def isSpace (c : Char) : Bool := c == ' ' || (9 ≤ c.toNat && c.toNat ≤ 13)

def isDigitIn (base : Nat) (c : Char) : Bool := (Text.hexValue c).any (· < base)

/-- The digits at the front of a text that belong to a base. -/
def digitsIn (base : Nat) (s : Bytes) : Bytes := s.takeWhile (isDigitIn base)

def ofDigits (base : Nat) (digits : Bytes) : Nat :=
  digits.foldl (fun n c => n * base + (Text.hexValue c).getD 0) 0

/-- The base that the first digits tell, and the digits behind them: hexadecimal behind `0x`,
binary behind `0b`, octal behind `0`, else decimal. -/
def baseOf (s : Bytes) : Nat × Bytes :=
  match s with
  | '0' :: x :: d :: r =>
    if (x == 'x' || x == 'X') && isDigitIn 16 d then (16, d :: r)
    else if (x == 'b' || x == 'B') && isDigitIn 2 d then (2, d :: r)
    else (8, s)
  | '0' :: _ => (8, s)
  | s => (10, s)

/-- The number at the front of a text behind blanks and a sign, between two bounds. Without a base
the digits tell it. -/
def read (base : Option Nat) (least greatest : Int) (s : Bytes) : Whole :=
  let body := s.dropWhile isSpace
  let (negative, r) := match body with
    | '-' :: r => (true, r)
    | '+' :: r => (false, r)
    | r => (false, r)
  let (base, r) := match base with
    | some b => (b, r)
    | none => baseOf r
  let digits := digitsIn base r
  if digits.isEmpty then ⟨0, s, false⟩
  else
    let n : Int := ofDigits base digits
    let n := if negative then -n else n
    let rest := r.drop digits.length
    if n < least then ⟨least, rest, true⟩
    else if n > greatest then ⟨greatest, rest, true⟩
    else ⟨n, rest, false⟩

def least64 : Int := -9223372036854775808

def greatest64 : Int := 9223372036854775807

def greatestUnsigned : Int := 18446744073709551615

/-- A number of 64 bits with a sign. -/
def signed (base : Option Nat) (s : Bytes) : Whole := read base least64 greatest64 s

/-- A number of 64 bits without a sign. A minus sign in front counts from the greatest one down. -/
def unsigned (base : Option Nat) (s : Bytes) : Whole :=
  let w := read base (-greatestUnsigned) greatestUnsigned s
  { w with value := if w.clamped then greatestUnsigned else w.value % (greatestUnsigned + 1) }

end Whole
end SvgSkeleton.Shell

/-! ### Directives

How wide a text is, and how a whole number is shown.
-/

namespace SvgSkeleton.Shell

/-- A width or a precision: a number, or one that an argument gives. -/
inductive Extent where
  | fixed (n : Nat)
  | given
  deriving DecidableEq

structure Directive where
  flags : Bytes
  width : Option Extent
  precision : Option Extent
  conversion : Char

/-- The greatest width or precision. -/
def Extent.greatest : Int := Int.pow 2 31 - 1

/-- A number as it is held in 32 bits with a sign. -/
def Extent.wrapped (n : Int) : Int := (n + Int.pow 2 31) % Int.pow 2 32 - Int.pow 2 31

/-- A width or a precision at the beginning of a text, and what follows it. -/
def extent? (s : Bytes) : Option Extent × Bytes :=
  match s with
  | '*' :: r => (some .given, r)
  | s =>
    let digits := s.takeWhile Char.isDigit
    if digits.isEmpty then (none, s)
    else (some (.fixed (Text.ofDigits 10 digits)), s.drop digits.length)

/-- The text in a field of a width. Zeros go behind the sign. -/
def inField (flags : Bytes) (width : Nat) (zeros : Bool) (sign body : Bytes) : Bytes :=
  let gap := width - (sign.length + body.length)
  if flags.contains '-' then sign ++ body ++ List.replicate gap ' '
  else if zeros && flags.contains '0' then sign ++ List.replicate gap '0' ++ body
  else List.replicate gap ' ' ++ sign ++ body

/-- The sign of a number as the flags ask for it. -/
def signOf (flags : Bytes) (negative : Bool) : Bytes :=
  if negative then ['-'] else if flags.contains '+' then ['+']
  else if flags.contains ' ' then [' '] else []

/-- The digits of a number in a base. -/
def digitsIn (base : Nat) (upper : Bool) (n : Nat) : Bytes :=
  let ds := Nat.toDigits base n
  if upper then ds.map Char.toUpper else ds

/-- A whole number as a directive shows it. One of 64 bits without a sign is counted from the
greatest one down where it is negative. -/
def showInteger (flags : Bytes) (conversion : Char) (width : Nat) (precision : Option Nat)
    (n : Int) : Bytes :=
  let unsigned : Nat := (n % (1 <<< 64)).toNat
  let marked := flags.contains '#'
  let fill (digits : Bytes) : Bytes :=
    let digits := if precision = some 0 && n = 0 then [] else digits
    List.replicate (precision.getD 0 - digits.length) '0' ++ digits
  let (sign, digits) := match conversion with
    | 'o' =>
      let digits := fill (digitsIn 8 false unsigned)
      ([], if marked && digits.head? != some '0' then '0' :: digits else digits)
    | 'x' => (if marked && n ≠ 0 then ['0', 'x'] else [], fill (digitsIn 16 false unsigned))
    | 'X' => (if marked && n ≠ 0 then ['0', 'X'] else [], fill (digitsIn 16 true unsigned))
    | 'u' => ([], fill (digitsIn 10 false unsigned))
    | _ => (signOf flags (n < 0), fill (digitsIn 10 false n.natAbs))
  inField flags width precision.isNone sign digits

end SvgSkeleton.Shell

/-! ### Amounts

Numbers with a unit behind them, such as `3`, `2k` and `1MB`.
-/

namespace SvgSkeleton.Shell.Amount

/-- The letters of the powers of a thousand, from the first power on. -/
def powers : List (List Char) :=
  [['k', 'K'], ['m', 'M'], ['g', 'G'], ['t', 'T'], ['P'], ['E'], ['Z'], ['Y'], ['R'], ['Q']]

/-- The number of units that a suffix stands for. -/
def unit? (suffix : Bytes) : Option Nat :=
  match suffix with
  | [] => some 1
  | ['b'] => some 512
  | c :: rest =>
    match powers.findIdx? (·.contains c) with
    | none => none
    | some i =>
      match rest with
      | [] | ['i', 'B'] => some (Nat.pow 1024 (i + 1))
      | ['B'] | ['D'] => some (Nat.pow 1000 (i + 1))
      | _ => none

/-- The number that a text writes. -/
def nat? (s : Bytes) : Option Nat :=
  let digits := s.takeWhile Char.isDigit
  let rest := s.drop digits.length
  let n := if digits.isEmpty then 1 else Text.ofDigits 10 digits
  if digits.isEmpty && rest.isEmpty then none
  else if digits.isEmpty && rest = ['b'] then none
  else (unit? rest).map (n * ·)

/-! ### Numbers within bounds -/

/-- Why a text is no number within bounds. -/
inductive Fault where
  | malformed
  | outOfRange
  | tooLarge
  deriving DecidableEq

/-- What is said of it behind the text. -/
def Fault.note : Fault → Bytes
  | .malformed => []
  | .outOfRange => ": Numerical result out of range".toList
  | .tooLarge => ": Value too large for defined data type".toList

/-- The greatest number that is small. -/
def smallLimit : Int := 1073741823

/-- The greatest number of a word without a sign. -/
def wordLimit : Nat := (1 <<< 64) - 1

/-- The greatest size of a file, and the greatest place in one. -/
def offsetLimit : Nat := (1 <<< 63) - 1

/-- The amount that a text writes, up to a limit. -/
def upTo (limit : Nat) (s : Bytes) : Except Fault Nat :=
  match nat? s with
  | none => .error .malformed
  | some n => if n ≤ limit then .ok n else .error .tooLarge

/-- The whole number that a text writes, which must be within bounds. -/
def within (low high : Int) (s : Bytes) : Except Fault Int :=
  match Bytes.toInt? (s.dropWhile isSpaceByte) with
  | none => .error .malformed
  | some n =>
    if low ≤ n && n ≤ high then .ok n
    else .error (if smallLimit < n || n < -Int.pow 2 63 then .tooLarge else .outOfRange)

/-- The natural number that a text writes, which must be within bounds. -/
def natWithin (low high : Nat) (s : Bytes) : Except Fault Nat := (within low high s).map Int.toNat

end SvgSkeleton.Shell.Amount
