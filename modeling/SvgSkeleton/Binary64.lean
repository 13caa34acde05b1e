/-!
Magnitudes of the binary64 format, in exact arithmetic. A magnitude is `mantissa * 2 ^ exponent`;
in the form that rounding produces, the mantissa has 53 bits, or fewer where the exponent is the
least one, -1074. Every operation rounds its exact result once, to nearest, ties to even.
-/

namespace SvgSkeleton

/-- The number `mantissa * 2 ^ exponent`. -/
structure Binary64 where
  mantissa : Nat
  exponent : Int
  deriving DecidableEq, Repr

namespace Binary64

def zero : Binary64 := ⟨0, -1074⟩

/-- `num / den`, rounded to the nearest whole number, a tie to the even one. -/
def roundQuotient (num den : Nat) : Nat :=
  let q := num / den
  let r := num % den
  if 2 * r > den || (2 * r == den && q % 2 == 1) then q + 1 else q

/-- `n * base ^ e` where the exponent is positive, else `n`. A quotient is multiplied by
`base ^ e` when its upper part is scaled by `e` and its lower part by `-e`. -/
def scaled (n base : Nat) (e : Int) : Nat := n * base.pow e.toNat

/-- The exponent `k` with `2 ^ k ≤ num / den < 2 ^ (k + 1)`, for a positive quotient. -/
def binaryMagnitude (num den : Nat) : Int :=
  let k : Int := (num.log2 : Int) - den.log2
  if scaled num 2 (-k) ≥ scaled den 2 k then k else k - 1

/-- `num / den` rounded, or nothing where that is too large for the format. -/
def ofQuotient (num den : Nat) : Option Binary64 :=
  if num = 0 then some zero
  else
    let e := max (-1074) (binaryMagnitude num den - 52)
    let m := roundQuotient (scaled num 2 (-e)) (scaled den 2 e)
    let (m, e) := if m = 1 <<< 53 then (1 <<< 52, e + 1) else (m, e)
    if e > 971 then none else some ⟨m, e⟩

/-- A whole number, rounded. -/
def ofNat (n : Nat) : Option Binary64 := ofQuotient n 1

/-- The power of ten, rounded; it is in range up to the 308th. -/
def tenTo (e : Nat) : Binary64 := (ofNat (Nat.pow 10 e)).getD zero

/-- The product, rounded, or nothing where it is too large. -/
def mul (x y : Binary64) : Option Binary64 :=
  let e := x.exponent + y.exponent
  ofQuotient (scaled (x.mantissa * y.mantissa) 2 e) (scaled 1 2 (-e))

/-- The quotient by a positive number, rounded, or nothing where it is too large. -/
def div (x y : Binary64) : Option Binary64 :=
  let e := x.exponent - y.exponent
  ofQuotient (scaled x.mantissa 2 e) (scaled y.mantissa 2 (-e))

/-- The magnitude as a quotient of whole numbers. -/
def toQuotient (x : Binary64) : Nat × Nat :=
  (scaled x.mantissa 2 x.exponent, scaled 1 2 (-x.exponent))

/-- The magnitude times the power of ten. Up to the 308th power this is one multiplication or
division by the rounded power; smaller ones divide by the 308th first, as often as needed, and
larger ones are out of range unless the magnitude is zero. -/
def scale (x : Binary64) (e : Int) : Option Binary64 :=
  if e > 308 then if x.mantissa = 0 then some x else none
  else if e ≥ 0 then x.mul (tenTo e.toNat)
  else if e ≥ -308 then x.div (tenTo (-e).toNat)
  else if x.mantissa = 0 then some x
  else
    match x.div (tenTo 308) with
    | none => none
    | some x => scale x (e + 308)
termination_by (-e).toNat
decreasing_by omega

end Binary64

/-! ### Shortest decimals

The shortest decimal of a magnitude has the fewest digits that read back as the same magnitude, and
of those it is the nearest. Two that are equally near are told apart by a rule for ties. A decimal
is written out in full, or with an exponent where it is very large or very small.
-/

/-- The number `digits * 10 ^ exponent`. -/
structure Decimal where
  digits : Nat
  exponent : Int
  deriving DecidableEq, Repr

namespace Decimal

/-- The digits of a whole number. -/
def digitsOf (n : Nat) : List Char := Nat.toDigits 10 n

/-- The digits without the zeros at their end. -/
def trimZeros (ds : List Char) : List Char :=
  (ds.reverse.dropWhile (· == '0')).reverse

/-- The decimal in positional notation, with no more places than it needs. -/
def positional (d : Decimal) : String :=
  let ds := digitsOf d.digits
  if d.exponent ≥ 0 then String.ofList (ds ++ List.replicate d.exponent.toNat '0')
  else
    let places := (-d.exponent).toNat
    let ds := List.replicate (places + 1 - ds.length) '0' ++ ds
    let whole := ds.take (ds.length - places)
    let fraction := trimZeros (ds.drop (ds.length - places))
    if fraction.isEmpty then String.ofList whole
    else String.ofList (whole ++ '.' :: fraction)

/-- The digits without zeros at their end, and the exponent that goes with them. -/
def trimmed (d : Decimal) : List Char × Int :=
  let ds := digitsOf d.digits
  let kept := trimZeros ds
  if kept.isEmpty then (['0'], 0) else (kept, d.exponent + (ds.length - kept.length : Nat))

/-- The decimal with at least one place behind the point, or with an exponent where the point
would stand behind the sixteenth digit or more than four zeros behind the point would begin it. -/
def scientific (d : Decimal) : String :=
  let (ds, e) := d.trimmed
  let point : Int := ds.length + e
  String.ofList <|
    if 0 ≤ e ∧ point ≤ 16 then ds ++ List.replicate e.toNat '0' ++ ['.', '0']
    else if 0 < point ∧ point ≤ 16 then ds.take point.toNat ++ '.' :: ds.drop point.toNat
    else if -5 < point ∧ point ≤ 0 then
      '0' :: '.' :: List.replicate (-point).toNat '0' ++ ds
    else
      let mantissa := if ds.length = 1 then ds else ds.take 1 ++ '.' :: ds.drop 1
      mantissa ++ 'e' :: (if point > 0 then ['+'] else []) ++ (toString (point - 1)).toList

end Decimal

/-- Which of two equally near neighbours on a grid is taken. -/
inductive Tie where
  | up
  | even
  deriving DecidableEq, Repr

/-- Is the upper neighbour of a tie taken, next to the lower one with these digits? -/
def Tie.takesUpper (t : Tie) (lower : Nat) : Bool :=
  match t with
  | .up => true
  | .even => lower % 2 == 1

namespace Binary64

/-- The exponent `k` with `10 ^ (k - 1) ≤ num / den < 10 ^ k`, for a positive quotient. -/
def decimalMagnitude (num den : Nat) : Int :=
  let k : Int := ((Decimal.digitsOf num).length : Int) - (Decimal.digitsOf den).length
  if scaled num 10 (-k) ≥ scaled den 10 k then k + 1 else k

/-- Does `digits * 10 ^ exponent` read back as the magnitude? The numbers that do lie between
the middles to its two neighbours, and the middles are among them iff the mantissa is even. -/
def readsBack (x : Binary64) (d : Decimal) : Bool :=
  let below := if x.mantissa = 1 <<< 52 ∧ x.exponent > -1074 then 1 else 2
  -- the ends and the decimal as multiples of `2 ^ (exponent - 2)`
  let e := x.exponent - 2
  let unit := scaled (scaled 1 2 e) 10 (-d.exponent)
  let v := scaled (scaled d.digits 10 d.exponent) 2 (-e)
  let low := (4 * x.mantissa - below) * unit
  let high := (4 * x.mantissa + 2) * unit
  if x.mantissa % 2 = 0 then low ≤ v && v ≤ high else low < v && v < high

/-- The neighbour of the magnitude on the grid `10 ^ exponent` that reads back and is nearer. -/
def onGrid (tie : Tie) (x : Binary64) (exponent : Int) : Option Decimal :=
  let (num, den) := x.toQuotient
  let num := scaled num 10 (-exponent)
  let den := scaled den 10 exponent
  let lower : Decimal := ⟨num / den, exponent⟩
  let upper : Decimal := ⟨num / den + 1, exponent⟩
  match x.readsBack lower, x.readsBack upper with
  | true, true =>
    let twice := 2 * (num % den)
    some (if twice > den || (twice == den && tie.takesUpper lower.digits) then upper else lower)
  | true, false => some lower
  | false, true => some upper
  | false, false => none

/-- The shortest decimal that reads back as the magnitude; seventeen digits always do. -/
def shortest (tie : Tie) (x : Binary64) : Decimal :=
  if x.mantissa = 0 then ⟨0, 0⟩
  else
    let (num, den) := x.toQuotient
    let k := decimalMagnitude num den
    ((List.range 17).findSome? fun (n : Nat) => onGrid tie x (k - (n + 1))).getD ⟨0, 0⟩

/-- The magnitude in positional notation, with the fewest digits that read back; a tie goes up. -/
def text (x : Binary64) : String := (x.shortest .up).positional

/-- The magnitude in scientific notation, with the fewest digits that read back; a tie goes to the
even digit. -/
def scientificText (x : Binary64) : String := (x.shortest .even).scientific

end Binary64

end SvgSkeleton
