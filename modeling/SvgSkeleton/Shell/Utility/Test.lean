import SvgSkeleton.Shell.Utility.Condition

/-!
`test` and `[` as programs. How the arguments are read depends on how many there are; numbers may be
of any size.
-/

namespace SvgSkeleton.Shell.Test

open Condition (Comparison comparison?)

/-- Why a condition cannot be read. -/
inductive Fault where
  | badNumber (s : Bytes)
  | noUnary (s : Bytes)
  | noBinary (s : Bytes)
  /-- Nothing follows the last argument. -/
  | missing
  | extra (s : Bytes)
  | unclosed (found : Option Bytes)

def inQuotes (s : Bytes) : Bytes := ['\''] ++ s ++ ['\'']

def Fault.message (last : Bytes) : Fault → Bytes
  | .badNumber s => "invalid integer ".toList ++ inQuotes s
  | .noUnary s => inQuotes s ++ ": unary operator expected".toList
  | .noBinary s => inQuotes s ++ ": binary operator expected".toList
  | .missing => "missing argument after ".toList ++ inQuotes last
  | .extra s => "extra argument ".toList ++ inQuotes s
  | .unclosed none => "')' expected".toList
  | .unclosed (some s) => "')' expected, found ".toList ++ inQuotes s

abbrev Check := StateT (List Bytes) (ExceptT Fault Shell)

/-- Pass over an argument; another one must follow where it is needed. -/
def advance (needed : Bool) : Check Unit := do
  modify (·.tail)
  if needed && (← get).isEmpty then throw .missing

def argument (n : Nat) : Check Bytes := return (← get).getD n []

/-- The comparison that an argument is. -/
def binary? (s : Bytes) : Option Comparison :=
  if s = ['=', '='] then some .same else comparison? s

def number (s : Bytes) : Check Int := do
  let body := s.dropWhile isBlankByte
  let r := (if body.head? = some '-' || body.head? = some '+' then body.tail else body)
  let digits := r.takeWhile Char.isDigit
  if digits.isEmpty || !(r.drop digits.length).all isBlankByte then throw (.badNumber s)
  let n : Int := Text.ofDigits 10 digits
  return if body.head? = some '-' then -n else n

def compare (c : Comparison) (leftLength : Bool) : Check Bool := do
  if leftLength then advance false
  let a ← argument 0
  let rightLength := (← argument 2) = ['-', 'l'] && (← get).length > 3
  if rightLength then advance false
  let b ← argument 2
  let result ← match c with
    | .same => pure (a == b)
    | .different => pure (a != b)
    | .before => pure (decide (a < b))
    | .behind => pure (decide (b < a))
    | .younger => Condition.younger true a b
    | .older => Condition.younger true b a
    | .sameFile => Condition.sameFile a b
    | c => do
      let x ← if leftLength then pure (a.length : Int) else number a
      let y ← if rightLength then pure (b.length : Int) else number b
      pure (c.ofOrder (Ord.compare x y))
  modify (·.drop 3)
  return result

def unaryLetters : List Char := "bcdefghkLpNnrsStuwxzOG".toList

/-- A letter behind a dash, applied to the next argument. -/
def unary : Check Bool := do
  match ← argument 0 with
  | ['-', c] =>
    if !unaryLetters.contains c then throw (.noUnary ['-', c])
    advance true
    let arg ← argument 0
    advance false
    match c with
    | 'n' => return !arg.isEmpty
    | 'z' => return arg.isEmpty
    | 't' =>
      let _ ← number arg
      return false
    | c => Condition.onFile c arg
  | s => throw (.noUnary s)

def looksUnary (s : Bytes) : Bool :=
  match s with
  | ['-', _] => true
  | _ => false

def oneArgument : Check Bool := do
  let s ← argument 0
  advance false
  return !s.isEmpty

def twoArguments : Check Bool := do
  let s ← argument 0
  if s = ['!'] then
    advance false
    return !(← oneArgument)
  else if looksUnary s then unary
  else throw .missing

mutual

/-- A condition of so many arguments. -/
def counted : Nat → Nat → Check Bool
  | 0, _ => throw .missing
  | fuel + 1, n => do
    let s ← argument 0
    match n with
    | 1 => oneArgument
    | 2 => twoArguments
    | 3 => threeArguments fuel
    | 4 =>
      if s = ['!'] then
        advance true
        return !(← threeArguments fuel)
      else if s = ['('] && (← argument 3) = [')'] then
        advance false
        let value ← twoArguments
        advance false
        return value
      else disjunction fuel
    | _ => disjunction fuel

def threeArguments : Nat → Check Bool
  | 0 => throw .missing
  | fuel + 1 => do
    let s ← argument 0
    let middle ← argument 1
    match binary? middle with
    | some c => compare c false
    | none =>
      if s = ['!'] then
        advance true
        return !(← twoArguments)
      else if s = ['('] && (← argument 2) = [')'] then
        advance false
        let value ← oneArgument
        advance false
        return value
      else if middle = ['-', 'a'] || middle = ['-', 'o'] then disjunction fuel
      else throw (.noBinary middle)

def disjunction : Nat → Check Bool
  | 0 => throw .missing
  | fuel + 1 => do
    if (← get).isEmpty then throw .missing
    let a ← conjunction fuel
    if (← get).head? != some ['-', 'o'] then return a
    advance false
    let b ← disjunction fuel
    return a || b

def conjunction : Nat → Check Bool
  | 0 => throw .missing
  | fuel + 1 => do
    let a ← term fuel
    if (← get).head? != some ['-', 'a'] then return a
    advance false
    let b ← conjunction fuel
    return a && b

def term : Nat → Check Bool
  | 0 => throw .missing
  | fuel + 1 => do
    let args ← get
    match args with
    | [] => throw .missing
    | ['!'] :: _ =>
      advance true
      return !(← term fuel)
    | ['('] :: _ =>
      advance true
      let inner ← get
      let near := (inner.drop 1).takeWhile (· != [')'])
      let n := if near.length + 1 > 3 then inner.length else near.length + 1
      let value ← counted fuel n
      match (← get).head? with
      | none => throw (.unclosed none)
      | some [')'] =>
        advance false
        return value
      | some s => throw (.unclosed (some s))
    | s :: _ =>
      match binary? (args.getD 2 []), binary? (args.getD 1 []) with
      | some c, other =>
        if args.length ≥ 4 && s = ['-', 'l'] then compare c true
        else
          match other with
          | some c => if args.length ≥ 3 then compare c false else single s
          | none => single s
      | none, some c => if args.length ≥ 3 then compare c false else single s
      | none, none => single s

/-- A letter behind a dash with its argument, or a string by itself. -/
def single (s : Bytes) : Check Bool := do
  if looksUnary s then unary
  else
    advance false
    return !s.isEmpty

end

end SvgSkeleton.Shell.Test

namespace SvgSkeleton.Shell

/-- The condition that the arguments form. -/
def test : Utility := fun name args => do
  let bracket := name.getLast? = some '['
  let complain (s : Bytes) : Shell Nat := do
    utilityError name s
    return 2
  if bracket && args.getLast? != some [']'] then complain "missing ']'".toList
  else
    let args := if bracket then args.dropLast else args
    if args.isEmpty then return 1
    let check : Test.Check Bool := do
      let value ← Test.counted (8 * args.length + 8) args.length
      match (← get).head? with
      | some s => throw (.extra s)
      | none => return value
    match ← (check.run args).run with
    | .ok (value, _) => return if value then 0 else 1
    | .error fault => complain (fault.message (args.getLastD []))

end SvgSkeleton.Shell
