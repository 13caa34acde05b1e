import SvgSkeleton.Shell.Utility.Interpreter.Operation

/-!
The functions of numbers: roots, powers, angles, and what is counted in ways to choose.
-/

namespace SvgSkeleton.Shell.Interpreter.Numbers

def names : List String :=
  ["sqrt", "floor", "ceil", "trunc", "pow", "log", "log2", "log10", "exp", "sin", "cos", "tan",
   "atan", "atan2", "asin", "acos", "fabs", "gcd", "lcm", "hypot", "isnan", "isinf", "isfinite",
   "factorial", "degrees", "radians", "comb", "perm", "isqrt", "prod", "fsum", "copysign",
   "isclose", "fmod"]

/-- A number as one that has been rounded. -/
def double (x : Floating) : Floating :=
  match x with
  | .finite negative a b => Floating.ofQuotient .double negative a b
  | x => x

/-- The ratio of a circle to its diameter, in so many bits. -/
def circle : Floating :=
  let bits := Floating.workingBits
  double (.finite false (Floating.fixedPi bits).natAbs (1 <<< bits))

/-- The base of natural powers. -/
def base : Floating := Floating.exp .double (Floating.ofInt 1)

/-- The values with names. -/
def constants : List (String × Value) :=
  [("pi", .float circle), ("e", .float base),
   ("tau", .float (Floating.mul .double circle (Floating.ofInt 2))),
   ("inf", .float (.infinite false)), ("nan", .float (.undefined false))]

def domainError {α : Type} : Run α := raise "ValueError" "math domain error"

/-- A whole number of one with a fraction. -/
def wholeBy (round : Int → Nat → Int) (v : Value) : Run Value := do
  match v.whole? with
  | some n => return .int n
  | none =>
    match ← numberOf v with
    | .finite negative a b => return .int (round (Floating.signed negative a) b)
    | .infinite _ => raise "OverflowError" "cannot convert float infinity to integer"
    | .undefined _ => raise "ValueError" "cannot convert float NaN to integer"

/-- The logarithm to a base that is a whole number. -/
def logBase (b : Nat) (x : Floating) : Floating :=
  match x with
  | .finite false n d =>
    let bits := Floating.workingBits
    if n = d then Floating.zero
    else
      Floating.ofFixed .double bits
        (Floating.fixedDiv bits (Floating.fixedLog bits n d) (Floating.fixedLog bits b 1)) 0
  | x => x

/-- The product of numbers that go down from one of them. -/
def falling (n k : Nat) : Nat := (List.range k).foldl (fun p i => p * (n - i)) 1

/-- A quarter of the whole angle minus an angle whose part is known. -/
def arcsine (x : Floating) : Floating :=
  let one := Floating.ofInt 1
  let f := Floating.Form.double
  Floating.atan2 f x (Floating.sqrt f
    (Floating.mul f (Floating.sub f one x) (Floating.add f one x)))

def call (name : String) (g : Given) : Run Value := do
  let f := Floating.Form.double
  let arg (n : Nat) : Run Floating := do numberOf (← g.need name n "x")
  let whole (n : Nat) : Run Int := do wholeOf (← g.need name n "n")
  let natural (n : Nat) : Run Nat := do
    let k ← whole n
    if k < 0 then
      raise "ValueError" (name ++ "() "
        ++ (if name = "factorial" then "not defined for negative values"
        else "must be a non-negative integer"))
    return k.toNat
  let float (x : Floating) : Run Value := return .float x
  let ranged (x : Floating) (y : Floating) : Run Value := do
    if x.isFinite && y matches .infinite _ then raise "OverflowError" "math range error"
    return .float y
  let positive (x : Floating) (log : Floating → Floating) : Run Value := do
    if x.isZero || (x.isNegative && !(x matches .undefined _)) then domainError
    return .float (log x)
  match name with
  | "sqrt" =>
    let x ← arg 0
    if x.isNegative && !x.isZero && !(x matches .undefined _) then domainError
    float (Floating.sqrt f x)
  | "floor" => wholeBy (fun a b => Int.fdiv a b) (← g.only name)
  | "ceil" => wholeBy (fun a b => -(Int.fdiv (-a) b)) (← g.only name)
  | "trunc" => wholeBy (fun a b => Int.tdiv a b) (← g.only name)
  | "pow" =>
    let x ← arg 0
    let y ← arg 1
    ranged (if y.isFinite then x else y) (Floating.pow f x y)
  | "fmod" =>
    let y ← arg 1
    if y.isZero then domainError
    float (Floating.mod f (← arg 0) y)
  | "log" =>
    let x ← arg 0
    match g.values[1]? with
    | none => positive x (Floating.log f)
    | some b =>
      let y ← numberOf b
      positive x fun x => Floating.div f (Floating.log f x) (Floating.log f y)
  | "log2" => positive (← arg 0) (logBase 2)
  | "log10" => positive (← arg 0) (logBase 10)
  | "exp" =>
    let x ← arg 0
    ranged x (Floating.exp f x)
  | "sin" => float (Floating.sin f (← arg 0))
  | "cos" => float (Floating.cos f (← arg 0))
  | "tan" =>
    let x ← arg 0
    float (Floating.div f (Floating.sin .extended x) (Floating.cos .extended x))
  | "atan" => float (Floating.atan2 f (← arg 0) (Floating.ofInt 1))
  | "atan2" => float (Floating.atan2 f (← arg 0) (← arg 1))
  | "asin" => float (arcsine (← arg 0))
  | "acos" =>
    let half := Floating.div f circle (Floating.ofInt 2)
    float (Floating.sub f half (arcsine (← arg 0)))
  | "fabs" =>
    let x ← arg 0
    float (if x.isNegative then x.negate else x)
  | "gcd" => return .int ((← g.values.mapM wholeOf).foldl (fun n k => Nat.gcd n k.natAbs) 0 : Nat)
  | "lcm" => return .int ((← g.values.mapM wholeOf).foldl (fun n k => Nat.lcm n k.natAbs) 1 : Nat)
  | "hypot" =>
    let squares := (← g.values.mapM numberOf).map fun x => match x with
      | .finite _ a b => Floating.finite false (a * a) (b * b)
      | x => x
    let sum := squares.foldl (fun s x => match s, x with
      | .finite _ a b, .finite _ c d => .finite false (a * d + c * b) (b * d)
      | _, _ => .infinite false) Floating.zero
    float (Floating.sqrt f sum)
  | "isnan" => return .bool ((← arg 0) matches .undefined _)
  | "isinf" => return .bool ((← arg 0) matches .infinite _)
  | "isfinite" => return .bool ((← arg 0) matches .finite _ _ _)
  | "factorial" =>
    let n ← natural 0
    return .int (falling n n : Nat)
  | "degrees" =>
    float (Floating.mul f (← arg 0) (Floating.div f (Floating.ofInt 180) circle))
  | "radians" =>
    float (Floating.mul f (← arg 0) (Floating.div f circle (Floating.ofInt 180)))
  | "comb" =>
    let n ← natural 0
    let k ← natural 1
    return .int (if n < k then 0 else (falling n k / falling k k : Nat))
  | "perm" =>
    let n ← natural 0
    let k ← natural 1
    return .int (if n < k then 0 else (falling n k : Nat))
  | "isqrt" => return .int (Nat.sqrt (← natural 0) : Nat)
  | "prod" =>
    (← itemsOf (← g.need name 0 "iterable")).foldlM (fun a b => Operator.mul.on a b) (.int 1)
  | "fsum" =>
    let xs ← (← itemsOf (← g.only name)).mapM numberOf
    let sum := xs.foldl (fun (s : Int × Nat) x => match x with
      | .finite negative a b => (s.1 * b + Floating.signed negative a * s.2, s.2 * b)
      | _ => s) (0, 1)
    float (Floating.ofQuotient f (sum.1 < 0) sum.1.natAbs sum.2)
  | "copysign" =>
    let x ← arg 0
    float (if x.isNegative = (← arg 1).isNegative then x else x.negate)
  | _ =>
    let x ← arg 0
    let y ← arg 1
    let size (x : Floating) : Floating := if x.isNegative then x.negate else x
    let difference := size (Floating.sub f x y)
    let greater := if Floating.order? (size x) (size y) == some .lt then size y else size x
    let tolerance ← match g.named.lookup "rel_tol" with
      | some v => numberOf v
      | none => pure (Floating.ofQuotient f false 1 1000000000)
    let least ← match g.named.lookup "abs_tol" with
      | some v => numberOf v
      | none => pure Floating.zero
    let small (limit : Floating) : Bool := (Floating.order? difference limit).any (· != .gt)
    return .bool (small (Floating.mul f tolerance greater) || small least)

end SvgSkeleton.Shell.Interpreter.Numbers
