import SvgSkeleton.Shell.Floating

/-!
Roots, powers, exponentials, logarithms and the functions of angles. They are computed on numbers
with many more bits behind the point than a form has, and rounded at the end.
-/

namespace SvgSkeleton.Shell.Floating

/-! ### Numbers with a fixed point -/

/-- How many bits are behind the point. -/
def workingBits : Nat := 320

/-- A quotient with so many bits behind the point. -/
def fixed (bits : Nat) (negative : Bool) (num den : Nat) : Int :=
  signed negative (num * (1 <<< bits) / den)

/-- The product of two numbers with so many bits behind the point. -/
def fixedMul (bits : Nat) (x y : Int) : Int := (x * y) / Int.pow 2 bits

def fixedDiv (bits : Nat) (x y : Int) : Int := (x * Int.pow 2 bits) / y

/-- The whole part of a square root, by better and better estimates from above. -/
def rootFrom (n : Nat) : Nat → Nat → Nat
  | 0, guess => guess
  | fuel + 1, guess =>
    let next := (guess + n / guess) / 2
    if next < guess then rootFrom n fuel next else guess

/-- The whole part of a square root. -/
def wholeRoot (n : Nat) : Nat :=
  if n = 0 then 0 else rootFrom n (n.log2 + 8) (1 <<< (n.log2 / 2 + 1))

/-- The sum of the terms of a series, of which each is made from the one before until none is
left. -/
def seriesFrom (next : Nat → Int → Int) : Nat → Nat → Int → Int → Int
  | 0, _, _, sum => sum
  | fuel + 1, n, term, sum =>
    if term = 0 || term = -1 then sum else seriesFrom next fuel (n + 1) (next n term) (sum + term)

def series (bits : Nat) (next : Nat → Int → Int) (first : Int) : Int :=
  seriesFrom next (2 * bits) 0 first 0

/-- The inverse hyperbolic tangent of a number between -1/2 and 1/2. -/
def fixedArtanh (bits : Nat) (x : Int) : Int :=
  let square := fixedMul bits x x
  let powers := fun (n : Nat) (p : Int × Int) =>
    let power := fixedMul bits p.1 square
    (power, power / (2 * n + 3))
  let rec go : Nat → Nat → Int × Int → Int → Int
    | 0, _, _, sum => sum
    | fuel + 1, n, (power, term), sum =>
      if power = 0 || power = -1 then sum else go fuel (n + 1) (powers n (power, term)) (sum + term)
  go (2 * bits) 0 (x, x) 0

/-- The natural logarithm of two. -/
def fixedLogTwo (bits : Nat) : Int := 2 * fixedArtanh bits (Int.pow 2 bits / 3)

/-- The inverse tangent of a number between -1/2 and 1/2. -/
def fixedArctanSmall (bits : Nat) (x : Int) : Int :=
  let square := fixedMul bits x x
  let rec go : Nat → Nat → Int → Int → Int
    | 0, _, _, sum => sum
    | fuel + 1, n, power, sum =>
      if power = 0 || power = -1 then sum
      else go fuel (n + 1) (-(fixedMul bits power square)) (sum + power / (2 * n + 1))
  go (2 * bits) 0 x 0

/-- Half a turn. -/
def fixedPi (bits : Nat) : Int :=
  let one : Int := Int.pow 2 bits
  4 * (4 * fixedArctanSmall bits (one / 5) - fixedArctanSmall bits (one / 239))

/-- The inverse tangent of a number between 0 and 1, from that of half of the angle's half. -/
def fixedArctan (bits : Nat) (x : Int) : Int :=
  let one : Int := Int.pow 2 bits
  let halved (t : Int) : Int :=
    let root : Int := wholeRoot ((one * one + t * t).toNat)
    fixedDiv bits t (one + root)
  4 * fixedArctanSmall bits (halved (halved x))

/-- The exponential of a number. -/
def fixedExp (bits : Nat) (x : Int) : Int :=
  series bits (fun n term => fixedMul bits term x / (n + 1)) (Int.pow 2 bits)

def fixedSin (bits : Nat) (x : Int) : Int :=
  let square := fixedMul bits x x
  series bits (fun n term => -(fixedMul bits term square / ((2 * n + 2) * (2 * n + 3)))) x

def fixedCos (bits : Nat) (x : Int) : Int :=
  let square := fixedMul bits x x
  series bits (fun n term => -(fixedMul bits term square / ((2 * n + 1) * (2 * n + 2))))
    (Int.pow 2 bits)

/-- The number of a form next to one with so many bits behind the point, times a power of two. -/
def ofFixed (form : Form) (bits : Nat) (x : Int) (exponent : Int) : Floating :=
  ofQuotient form (x < 0) (Binary64.scaled x.natAbs 2 exponent)
    (Binary64.scaled (1 <<< bits) 2 (-exponent))

/-! ### Functions -/

def sqrt (form : Form) : Floating → Floating
  | .undefined n => .undefined n
  | .infinite false => .infinite false
  | .infinite true => noNumber
  | .finite negative num den =>
    if num = 0 then .finite negative 0 1
    else if negative then noNumber
    else
      let shift := 2 * (workingBits + den.log2)
      let root := wholeRoot (num * (1 <<< shift) / den)
      ofQuotient form false root (1 <<< (shift / 2))

/-- From here on exponentials are too great or too small for every form. -/
def exponentialLimit : Nat := 12000

def exp (form : Form) : Floating → Floating
  | .undefined n => .undefined n
  | .infinite false => .infinite false
  | .infinite true => .finite false 0 1
  | .finite negative num den =>
    if num / den > exponentialLimit then if negative then .finite false 0 1 else .infinite false
    else
      let x := fixed workingBits negative num den
      let two := fixedLogTwo workingBits
      let k := x / two
      ofFixed form workingBits (fixedExp workingBits (x - k * two)) k

/-- The logarithm of a positive quotient, with so many bits behind the point. -/
def fixedLog (bits num den : Nat) : Int :=
  let one : Int := Int.pow 2 bits
  let e := Binary64.binaryMagnitude num den
  let m := fixed bits false (Binary64.scaled num 2 (-e)) (Binary64.scaled den 2 e)
  e * fixedLogTwo bits + 2 * fixedArtanh bits (fixedDiv bits (m - one) (m + one))

def log (form : Form) : Floating → Floating
  | .undefined n => .undefined n
  | .infinite false => .infinite false
  | .infinite true => noNumber
  | .finite negative num den =>
    if num = 0 then .infinite true
    else if negative then noNumber
    else ofFixed form workingBits (fixedLog workingBits num den) 0

/-- Below this quotient of one an angle is its own sine. -/
def smallAngle : Nat := 1 <<< 40

/-- The sine or the cosine of an angle. -/
def circular (form : Form) (isSine : Bool) : Floating → Floating
  | .undefined n => .undefined n
  | .infinite _ => noNumber
  | .finite negative num den =>
    if num * smallAngle < den then
      if isSine then .finite negative num den else .finite false 1 1
    else
      let bits := workingBits + (num / den).log2 + 1
      let x := fixed bits negative num den
      let quarter := fixedPi bits / 2
      let turns := (x + quarter / 2) / quarter
      let rest := x - turns * quarter
      let step := (turns + if isSine then 0 else 1) % 4
      let value := if step = 0 then fixedSin bits rest
        else if step = 1 then fixedCos bits rest
        else if step = 2 then -fixedSin bits rest
        else -fixedCos bits rest
      ofFixed form bits value 0

def sin (form : Form) : Floating → Floating := circular form true

def cos (form : Form) : Floating → Floating := circular form false

/-- The inverse tangent of a positive quotient, with so many bits behind the point. -/
def fixedArctanOf (bits num den : Nat) : Int :=
  if num ≤ den then fixedArctan bits (fixed bits false num den)
  else fixedPi bits / 2 - fixedArctan bits (fixed bits false den num)

/-- The angle of the point with two coordinates. -/
def atan2 (form : Form) (y x : Floating) : Floating :=
  let bits := workingBits
  let angle (negative : Bool) (a : Int) : Floating :=
    ofFixed form bits (if negative then -a else a) 0
  let half := fixedPi bits
  match y, x with
  | .undefined n, _ | _, .undefined n => .undefined n
  | .infinite n, .infinite false => angle n (half / 4)
  | .infinite n, .infinite true => angle n (3 * half / 4)
  | .infinite n, _ => angle n (half / 2)
  | .finite n _ _, .infinite false => .finite n 0 1
  | .finite n _ _, .infinite true => angle n half
  | .finite n a b, .finite m c d =>
    if a = 0 then if m then angle n half else .finite n 0 1
    else if c = 0 then angle n (half / 2)
    else if m then angle n (half - fixedArctanOf bits (a * d) (b * c))
    else if a * d * smallAngle < b * c then ofQuotient form n (a * d) (b * c)
    else angle n (fixedArctanOf bits (a * d) (b * c))

/-- Powers with an exponent up to this one are computed exactly. -/
def exactPower : Nat := 2048

/-- A power with a whole exponent; nothing if the exponent is too great. -/
def wholePower? (form : Form) (negative : Bool) (num den : Nat) (n : Int) : Option Floating :=
  let sign := negative && n % 2 != 0
  let k := n.natAbs
  if num = 0 then
    some (if k = 0 then .finite false 1 1 else if n < 0 then .infinite sign else .finite sign 0 1)
  else if num = den then some (.finite sign 1 1)
  else if k > exactPower then none
  else if n < 0 then some (ofQuotient form sign (Nat.pow den k) (Nat.pow num k))
  else some (ofQuotient form sign (Nat.pow num k) (Nat.pow den k))

def pow (form : Form) (x y : Floating) : Floating :=
  let one : Floating := .finite false 1 1
  match x, y with
  | _, .finite _ 0 _ => one
  | .undefined n, _ => .undefined n
  | x, .undefined n => if order? x one = some .eq then one else .undefined n
  | .infinite negative, y =>
    let odd := match y with
      | .finite _ a b => a % b == 0 && a / b % 2 == 1
      | _ => false
    if y.isNegative then .finite (negative && odd) 0 1 else .infinite (negative && odd)
  | .finite _ a b, .infinite n =>
    if a = b then one else if (a < b) = n then .infinite false else .finite false 0 1
  | .finite negative a b, .finite n c d =>
    let whole := c % d == 0
    let exact := if whole then wholePower? form negative a b (signed n (c / d)) else none
    match exact with
    | some z => z
    | none =>
      if a = 0 then if n then .infinite false else .finite false 0 1
      else if negative && !whole then noNumber
      else
        let bits := workingBits + (c / d).log2 + 2
        let power := fixedLog bits a b * signed n c / d
        let two := fixedLogTwo bits
        let k := power / two
        let sign := negative && whole && c / d % 2 == 1
        if k > exponentialLimit then .infinite sign
        else if k < -exponentialLimit then .finite sign 0 1
        else
          let z := ofFixed form bits (fixedExp bits (power - k * two)) k
          if sign then z.negate else z

end SvgSkeleton.Shell.Floating
