import SvgSkeleton.Shell.Floating
import SvgSkeleton.Shell.Utility.Options
import SvgSkeleton.Shell.Utility.Precedence

/-!
Numbers: `seq`, those from one to another in steps, each with as many places as the first one and
the step are written with; and `factor`, the primes whose product a number is.
-/

namespace SvgSkeleton.Shell.Sequence

/-- A quotient. -/
structure Ratio where
  num : Int
  den : Nat

def Ratio.toFloating (r : Ratio) : Floating := .finite (r.num < 0) r.num.natAbs r.den

/-- A number as an operand writes it. -/
structure Number where
  value : Ratio
  /-- How many places it is written with; nothing if it is in hexadecimal digits with a point. -/
  places : Option Nat
  /-- How wide it is when no exponent is written. -/
  width : Int

/-- What an operand writes. -/
inductive Operand where
  | number (n : Number)
  | infinite (negative : Bool)
  | undefined
  | none

/-- The places and the width of a number in decimal digits. -/
def measures (s : Bytes) : Nat × Int :=
  let mantissa := s.takeWhile fun c => c != 'e' && c != 'E'
  let exponent : Int := match s.drop mantissa.length with
    | _ :: r => (Bytes.toInt? r).getD 0
    | [] => 0
  let hasExponent := mantissa.length < s.length
  let whole := mantissa.takeWhile (· != '.')
  let hasPoint := whole.length < mantissa.length
  let places := mantissa.length - whole.length - 1
  let width : Int := mantissa.length
  let width := if !hasPoint then width
    else if places = 0 then width - 1
    else if !(whole.getLast?.any Char.isDigit) then width + 1
    else width
  if !hasExponent then (places, width)
  else if exponent < 0 then
    let width := if hasPoint then (if places = 0 then width + 1 else width) else width + 1
    (places + exponent.natAbs, width + exponent.natAbs)
  else (places - exponent.natAbs, width + exponent.natAbs)

/-- Read an operand. -/
def Operand.of (s : Bytes) : Operand :=
  let r := Floating.read .extended s
  if !r.rest.isEmpty || r.rest.length = s.length then .none
  else
    match r.value with
    | .undefined _ => .undefined
    | .infinite n => .infinite n
    | .finite negative num den =>
      let value : Ratio := ⟨if negative then -(num : Int) else num, den⟩
      if s.any fun c => c == 'x' || c == 'X' then
        .number ⟨value, if s.any fun c => c == '.' || c == 'p' then Option.none else some 0, 0⟩
      else
        let (places, width) := measures s
        -- What is written exactly counts exactly.
        let units := Binary64.roundQuotient (num * Nat.pow 10 places) den
        let value := if negative then -(units : Int) else units
        .number ⟨⟨value, Nat.pow 10 places⟩, some places, width⟩

/-- The numbers from one to another in steps, all of them over one denominator. -/
def numbersFrom (first step last : Int) : Nat → List Int
  | 0 => []
  | fuel + 1 =>
    if (step > 0 && first > last) || (step < 0 && first < last) then []
    else first :: numbersFrom (first + step) step last fuel

/-- The most numbers that are written. -/
def mostNumbers : Nat := 1000000

/-! ### Formats -/

/-- A format with one directive: what stands before it, its flags, its width and precision, its
letter, and what stands behind it. -/
structure Format where
  before : Bytes
  flags : Bytes
  width : Nat
  precision : Option Nat
  conversion : Char
  after : Bytes

inductive FormatFault where
  | noDirective
  | unknown (c : Char)
  | many
  | endsInPercent

def FormatFault.message (format : Bytes) (f : FormatFault) : Bytes :=
  "format ".toList ++ Quoting.plain format ++ match f with
    | .noDirective => " has no % directive".toList
    | .unknown c => " has unknown %".toList ++ c :: " directive".toList
    | .many => " has too many % directives".toList
    | .endsInPercent => " ends in %".toList

/-- The text in front of a directive, and what follows its mark. -/
def literal : Bytes → Bytes × Option Bytes
  | '%' :: '%' :: r =>
    let (s, rest) := literal r
    ('%' :: s, rest)
  | '%' :: r => ([], some r)
  | c :: r =>
    let (s, rest) := literal r
    (c :: s, rest)
  | [] => ([], none)

/-- Read a format. -/
def Format.of (s : Bytes) : Except FormatFault Format := do
  match literal s with
  | (_, none) => throw .noDirective
  | (before, some r) =>
    let flags := r.takeWhile ("-+#0 '".toList.contains ·)
    let r := r.drop flags.length
    let width := r.takeWhile Char.isDigit
    let r := r.drop width.length
    let (precision, r) := match r with
      | '.' :: r =>
        let digits := r.takeWhile Char.isDigit
        (some (Text.ofDigits 10 digits), r.drop digits.length)
      | r => (none, r)
    let r := if r.head? = some 'L' then r.drop 1 else r
    match r with
    | [] => throw .endsInPercent
    | c :: r =>
      if !"efgaEFGA".toList.contains c then throw (.unknown c)
      match literal r with
      | (_, some _) => throw .many
      | (after, none) =>
        return ⟨before, flags.filter (· != '\''), Text.ofDigits 10 width, precision, c, after⟩

def Format.show (f : Format) (x : Floating) : Bytes :=
  f.before ++ Floating.shown .extended f.flags f.conversion f.width f.precision x ++ f.after

/-- The format for numbers that are written in places, where all may be equally wide. -/
def usualFormat (wide : Bool) (first step last : Number) : Format :=
  match first.places, step.places, last.places with
  | some p, some q, some l =>
    let places := max p q
    let width : Int :=
      if !wide then 0
      else
        let a := first.width + ((places : Int) - p) + (if p = 0 && places != 0 then 1 else 0)
        let b := last.width + ((places : Int) - l) - (if l != 0 && places = 0 then 1 else 0)
          + (if l = 0 && places != 0 then 1 else 0)
        max a b
    ⟨[], if wide then ['0'] else [], width.toNat, some places, 'f', []⟩
  | _, _, _ => ⟨[], [], 0, none, 'g', []⟩

/-! ### Calls of `seq` -/

def forms : List OptionForm :=
  [setting 'f' ["format"], setting 's' ["separator"], flag 'w' ["equal-width"]]

/-- The arguments with a mark in front of the numbers, as a dash with a digit begins a number. -/
def marked : List Bytes → List Bytes
  | [] => []
  | a :: rest =>
    let takesNext := a = ['-', 's'] || a = ['-', 'f'] || a = "--separator".toList
      || a = "--format".toList
    match a, rest with
    | '-' :: c :: r, rest =>
      if c.isDigit || c = '.' then "--".toList :: ('-' :: c :: r) :: rest
      else
        match takesNext, rest with
        | true, value :: rest => a :: value :: marked rest
        | _, rest => a :: marked rest
    | _, _ => a :: rest

/-- The number of an operand, for which there is a limit in place of infinity. -/
def Operand.number? : Operand → Option Number
  | .number n => some n
  | .infinite negative =>
    some ⟨⟨if negative then -(Int.pow 10 12) else Int.pow 10 12, 1⟩, Option.none, 0⟩
  | _ => Option.none

/-- The numbers of a sequence. -/
def values (first step last : Number) : List Floating :=
  let den := first.value.den * step.value.den * last.value.den
  let scale (r : Ratio) : Int := r.num * ((den / r.den : Nat) : Int)
  (numbersFrom (scale first.value) (scale step.value) (scale last.value) mostNumbers).map fun n =>
    Ratio.toFloating ⟨n, den⟩

def seq : Utility := fun name args => do
  match readArguments forms false (args.length + 2) (marked args) with
  | .error fault => misused name fault.message 1
  | .ok a =>
    let format := (a.value? 'f').map fun text => (text, Format.of text)
    match a.operands, format with
    | [], _ => misused name "missing operand".toList 1
    | _ :: _ :: _ :: extra :: _, _ =>
      misused name ("extra operand ".toList ++ Quoting.plain extra) 1
    | operands, format =>
      if let some (text, .error fault) := format then
        utilityError name (fault.message text)
        return 1
      if a.has 'w' && format.isSome then
        return ← misused name
          "format string may not be specified when printing equal width strings".toList 1
      let read := operands.map fun s => (s, Operand.of s)
      let bad := read.find? fun r => match r.2 with
        | .none | .undefined => true
        | _ => false
      match bad with
      | some (s, .undefined) =>
        misused name ("invalid ".toList ++ Quoting.plain "not-a-number".toList
          ++ " argument: ".toList ++ Quoting.plain s) 1
      | some (s, _) =>
        misused name ("invalid floating point argument: ".toList ++ Quoting.plain s) 1
      | none =>
        let one : Number := ⟨⟨1, 1⟩, some 0, 1⟩
        let (first, step, last) := match read.filterMap (·.2.number?) with
          | [last] => (one, one, last)
          | [first, last] => (first, one, last)
          | first :: step :: last :: _ => (first, step, last)
          | [] => (one, one, one)
        if step.value.num = 0 then
          misused name ("invalid Zero increment value: ".toList
            ++ Quoting.plain (operands.getD 1 [])) 1
        else
          let form := match format with
            | some (_, .ok form) => form
            | _ => usualFormat (a.has 'w') first step last
          let texts := (values first step last).map form.show
          unless texts.isEmpty do write 1 (Bytes.join ((a.value? 's').getD ['\n']) texts ++ ['\n'])
          return 0

end SvgSkeleton.Shell.Sequence

/-! ### `factor` -/

namespace SvgSkeleton.Shell.Factors

/-- Divide a number by another one as often as that leaves nothing over. -/
def divideOut (p : Nat) : Nat → Nat → Nat × Nat
  | 0, n => (0, n)
  | fuel + 1, n =>
    if p ≤ 1 || n = 0 || n % p != 0 then (0, n)
    else
      let (count, rest) := divideOut p fuel (n / p)
      (count + 1, rest)

/-- The divisors from one on that are prime, with how often they divide, and what is left. -/
def smallFrom : Nat → Nat → Nat → List (Nat × Nat) × Nat
  | 0, _, n => ([], n)
  | fuel + 1, p, n =>
    if n < p * p then ([], n)
    else
      let (count, rest) := divideOut p (n.log2 + 1) n
      let (more, left) := smallFrom fuel (if p = 2 then 3 else p + 2) rest
      (if count = 0 then more else (p, count) :: more, left)

/-- A power within a remainder. -/
def powerMod (m : Nat) : Nat → Nat → Nat → Nat
  | 0, _, _ => 1 % m
  | fuel + 1, b, e =>
    if e = 0 then 1 % m
    else
      let half := powerMod m fuel (b * b % m) (e / 2)
      if e % 2 = 1 then half * b % m else half

/-- Is a number that is squared again and again minus one? -/
def meetsMinusOne (m : Nat) : Nat → Nat → Bool
  | 0, _ => false
  | n + 1, x => x = m - 1 || meetsMinusOne m n (x * x % m)

/-- Does a number pass the test for primes to a base? -/
def passes (n b : Nat) : Bool :=
  let (twos, odd) := divideOut 2 (n.log2 + 1) (n - 1)
  let x := powerMod n (n.log2 + 2) (b % n) odd
  b % n = 0 || x = 1 || meetsMinusOne n twos x

/-- Is a number that is greater than all bases a prime? -/
def isPrime (n : Nat) : Bool :=
  [2, 3, 5, 7, 11, 13, 17, 19, 23, 29, 31, 37, 41, 43, 47, 53].all (passes n)

/-- A divisor, by two walks of which one is faster than the other. -/
def divisorFrom (n c : Nat) : Nat → Nat → Nat → Option Nat
  | 0, _, _ => none
  | fuel + 1, x, y =>
    let step (x : Nat) : Nat := (x * x + c) % n
    let x := step x
    let y := step (step y)
    let d := Nat.gcd (if x < y then y - x else x - y) n
    if d = 1 then divisorFrom n c fuel x y
    else if d = n then none
    else some d

/-- How far a walk goes. -/
def walkLimit : Nat := 1000000

/-- A divisor of a number that is no prime. -/
def divisor? (n : Nat) : Option Nat :=
  (List.range 20).findSome? fun c => divisorFrom n (c + 1) walkLimit 2 2

/-- The primes of a number without small ones. -/
def great : Nat → Nat → List Nat
  | 0, n => [n]
  | fuel + 1, n =>
    if n = 1 then []
    else if isPrime n then [n]
    else match divisor? n with
      | some d => great fuel d ++ great fuel (n / d)
      | none => [n]

/-- How many small divisors are tried. -/
def smallCount : Nat := 50000

/-- The primes of a number in order, each with its power. -/
def factors (n : Nat) : List (Nat × Nat) :=
  if n = 0 then []
  else
    let (small, rest) := smallFrom smallCount 2 n
    let primes :=
      if rest ≤ 1 then [] else if rest < smallCount * smallCount then [rest]
      else (great (rest.log2 + 1) rest).mergeSort
    small ++ (primes.eraseReps.map fun p => (p, primes.count p))

/-- The primes of a number as they are shown. -/
def line (powers : Bool) (n : Nat) : Bytes :=
  Bytes.ofNat n ++ ':' :: (factors n).flatMap (fun (p, count) =>
    let word := ' ' :: Bytes.ofNat p
    if powers && 1 < count then word ++ '^' :: Bytes.ofNat count
    else (List.replicate (if powers then 1 else count) word).flatten) ++ ['\n']

/-- The number that a word writes. -/
def number? (word : Bytes) : Option Nat :=
  let s := word.dropWhile isSpaceByte
  let digits := match s with
    | '+' :: r => r
    | s => s
  if !digits.isEmpty && digits.all Char.isDigit then some (Text.ofDigits 10 digits) else none

/-- From this number on primes are shown at once, and before those of other numbers. -/
def greatNumber : Nat := 1 <<< 127

end Factors

open Factors in
def factor : Utility := withOptions [flag 'h' ["exponents"]] fun name a => do
  let text ← if a.operands.isEmpty then readInput else pure (.ok [])
  if let .error e := text then
    utilityError name ("error reading input: ".toList ++ reasonText e)
    return 1
  let text := text.toOption.getD []
  let words := if a.operands.isEmpty then Precedence.words (text.length + 1) text else a.operands
  let numbers ← words.filterMapM fun w => do
    match number? w with
    | some n =>
      if greatNumber ≤ n then write 1 (line (a.has 'h') n)
      return some n
    | none =>
      utilityError name (Quoting.plain w ++ " is not a valid positive integer".toList)
      return none
  write 1 ((numbers.filter (· < greatNumber)).flatMap (line (a.has 'h')))
  return if numbers.length = words.length then 0 else 1

end SvgSkeleton.Shell
