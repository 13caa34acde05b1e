import SvgSkeleton.Shell.Machine
import SvgSkeleton.Shell.Whole

/-!
Arithmetic expressions on whole numbers of 64 bits with a sign, which wrap around. Names stand for
the values of variables, and assignments give values to them. An expression is evaluated while it is
read; what its value does not depend on is read only.
-/

namespace SvgSkeleton.Shell.Arithmetic

inductive Binary where
  | mul | div | rem | add | sub | shl | shr | lt | le | gt | ge | eq | ne | band | bxor | bor
  deriving DecidableEq, Repr

inductive Unary where
  | plus | minus | flip | not
  deriving DecidableEq, Repr

inductive Token where
  | number (n : Int)
  | name (s : Bytes)
  | sign (s : String)
  | stray
  | stop
  deriving DecidableEq

/-! ### Words -/

def signs : List String :=
  ["<<=", ">>=", "<<", ">>", "<=", ">=", "==", "!=", "&&", "||", "+=", "-=", "*=", "/=", "%=",
   "&=", "^=", "|=", "+", "-", "*", "/", "%", "<", ">", "=", "!", "~", "&", "^", "|", "?", ":",
   "(", ")"]

def isSpace (c : Char) : Bool := c == ' ' || c == '\t' || c == '\n'

/-- The first word of a text and what follows it. A character that begins no word is not passed. -/
def word (text : Bytes) : Token × Bytes :=
  match text.dropWhile isSpace with
  | [] => (.stop, [])
  | c :: r =>
    let s := c :: r
    if c.isDigit then
      let w := Whole.signed none s
      (.number w.value, w.rest)
    else if isNameStart c then
      let name := s.takeWhile isNameChar
      (.name name, s.drop name.length)
    else
      match signs.find? (·.toList.isPrefixOf s) with
      | some sign => (.sign sign, s.drop sign.length)
      | none => (.stray, s)

/-- A binary operator by its sign, and how closely it binds. -/
def binary? (sign : String) : Option (Binary × Nat) :=
  match sign with
  | "*" => some (.mul, 8)
  | "/" => some (.div, 8)
  | "%" => some (.rem, 8)
  | "+" => some (.add, 7)
  | "-" => some (.sub, 7)
  | "<<" => some (.shl, 6)
  | ">>" => some (.shr, 6)
  | "<" => some (.lt, 5)
  | "<=" => some (.le, 5)
  | ">" => some (.gt, 5)
  | ">=" => some (.ge, 5)
  | "==" => some (.eq, 4)
  | "!=" => some (.ne, 4)
  | "&" => some (.band, 3)
  | "^" => some (.bxor, 2)
  | "|" => some (.bor, 1)
  | _ => none

def unary? (sign : String) : Option Unary :=
  match sign with
  | "-" => some .minus
  | "+" => some .plus
  | "!" => some .not
  | "~" => some .flip
  | _ => none

/-- The operator of an assignment, if the sign is one. -/
def assignment? (sign : String) : Option (Option Binary) :=
  if sign = "=" then some none
  else
    match sign.toList.reverse with
    | '=' :: r =>
      let op := String.ofList r.reverse
      if ["+", "-", "*", "/", "%", "<<", ">>", "&", "^", "|"].contains op then
        (binary? op).map fun b => some b.1
      else none
    | _ => none

/-! ### Operations -/

/-- The number of 64 bits with a sign that a whole number wraps to. -/
def wrap (n : Int) : Int := n.bmod (1 <<< 64)

def ofBool (b : Bool) : Int := if b then 1 else 0

/-- The bits of a number as a natural number. -/
def bits (n : Int) : Nat := (n % (1 <<< 64)).toNat

/-- The value of an operation, or nothing where it divides by zero. -/
def Binary.apply (op : Binary) (a b : Int) : Option Int :=
  match op with
  | .mul => some (wrap (a * b))
  | .div => if b = 0 then none else some (wrap (a.tdiv b))
  | .rem => if b = 0 then none else some (wrap (a.tmod b))
  | .add => some (wrap (a + b))
  | .sub => some (wrap (a - b))
  | .shl => some (wrap (Int.ofNat (bits a <<< (bits b % 64))))
  | .shr => some (a >>> (bits b % 64))
  | .lt => some (ofBool (a < b))
  | .le => some (ofBool (a ≤ b))
  | .gt => some (ofBool (a > b))
  | .ge => some (ofBool (a ≥ b))
  | .eq => some (ofBool (a = b))
  | .ne => some (ofBool (a ≠ b))
  | .band => some (wrap (Int.ofNat (bits a &&& bits b)))
  | .bxor => some (wrap (Int.ofNat (bits a ^^^ bits b)))
  | .bor => some (wrap (Int.ofNat (bits a ||| bits b)))

def Unary.apply (op : Unary) (a : Int) : Int :=
  match op with
  | .plus => a
  | .minus => wrap (-a)
  | .flip => wrap (-a - 1)
  | .not => ofBool (a = 0)

/-! ### Values -/

/-- The text of the whole expression, its next word, and what follows that. -/
structure Reading where
  source : Bytes
  token : Token
  rest : Bytes

abbrev Evaluation := StateT Reading Shell

def fail {α : Type} (reason : String) : Evaluation α := do
  let source := (← get).source
  failWith (("arithmetic expression: " ++ reason ++ ": \"").toList ++ source ++ ['"'])

/-- Pass over the next word. -/
def next : Evaluation Unit := modify fun s =>
  let (token, rest) := word s.rest
  { s with token := token, rest := rest }

/-- Is the next word this sign? -/
def at? (sign : String) : Evaluation Bool := return (← get).token = .sign sign

/-- The number that the value of a variable writes; an empty value counts as zero. -/
def readVariable (name : Bytes) : Shell Int := do
  let value := (← valueOf? name).getD []
  let w := Whole.signed none value
  if w.clamped || !w.rest.all Whole.isSpace then failWith ("Illegal number: ".toList ++ value)
  return w.value

/-- The value of an operation. The least number has no quotient by minus one, so asking for it ends
the shell. -/
def operate (op : Binary) (a b : Int) : Evaluation Int := do
  if (op = .div || op = .rem) && a = Whole.least64 && b = -1 then throw (.killed 8)
  match op.apply a b with
  | some n => return n
  | none => fail "division by zero"

mutual

/-- An expression, conditional or an assignment. Unless it is `live`, it is only read. -/
def expression : Nat → Bool → Evaluation Int
  | 0, _ => fail "expecting primary"
  | fuel + 1, live => do
    let s ← get
    match s.token, word s.rest with
    | .name x, (.sign sign, rest) =>
      match assignment? sign with
      | some op =>
        set { s with rest := rest }
        next
        let new ← expression fuel live
        if !live then return new
        let new ← match op with
          | none => pure new
          | some op => do operate op (← readVariable x) new
        assign x (Bytes.ofInt new)
        return new
      | none => conditional fuel live
    | _, _ => conditional fuel live

def conditional : Nat → Bool → Evaluation Int
  | 0, _ => fail "expecting primary"
  | fuel + 1, live => do
    let test ← disjunction fuel live
    if !(← at? "?") then return test
    next
    let yes ← expression fuel (live && test ≠ 0)
    if !(← at? ":") then fail "expecting ':'"
    next
    let no ← conditional fuel (live && test = 0)
    return if test ≠ 0 then yes else no

def disjunction : Nat → Bool → Evaluation Int
  | 0, _ => fail "expecting primary"
  | fuel + 1, live => do
    let a ← conjunction fuel live
    if !(← at? "||") then return a
    next
    let b ← disjunction fuel (live && a = 0)
    return ofBool (a ≠ 0 || b ≠ 0)

def conjunction : Nat → Bool → Evaluation Int
  | 0, _ => fail "expecting primary"
  | fuel + 1, live => do
    let a ← operand fuel live 1
    if !(← at? "&&") then return a
    next
    let b ← conjunction fuel (live && a ≠ 0)
    return ofBool (a ≠ 0 && b ≠ 0)

/-- Operands tied by operators that bind at least this closely. -/
def operand : Nat → Bool → Nat → Evaluation Int
  | 0, _, _ => fail "expecting primary"
  | fuel + 1, live, level => do operandRest fuel live level (← primary fuel live)

def operandRest : Nat → Bool → Nat → Int → Evaluation Int
  | 0, _, _, _ => fail "expecting primary"
  | fuel + 1, live, level, a => do
    match (← get).token with
    | .sign sign =>
      match binary? sign with
      | some (op, n) =>
        if n < level then return a
        next
        let b ← operand fuel live (n + 1)
        operandRest fuel live level (← if live then operate op a b else pure b)
      | none => return a
    | _ => return a

def primary : Nat → Bool → Evaluation Int
  | 0, _ => fail "expecting primary"
  | fuel + 1, live => do
    match (← get).token with
    | .number n =>
      next
      return n
    | .name x =>
      next
      if live then readVariable x else return 0
    | .sign "(" =>
      next
      let n ← expression fuel live
      if !(← at? ")") then fail "expecting ')'"
      next
      return n
    | .sign sign =>
      match unary? sign with
      | some op =>
        next
        return op.apply (← primary fuel live)
      | none => fail "expecting primary"
    | _ => fail "expecting primary"

end

/-- The value of the expression that a text writes. -/
def evaluate (source : Bytes) : Shell Int := do
  let fuel := 16 * source.length + 64
  let whole : Evaluation Int := do
    next
    let n ← expression fuel true
    if (← get).token ≠ .stop then fail "expecting EOF"
    return n
  return (← whole.run ⟨source, .stop, source⟩).1

end SvgSkeleton.Shell.Arithmetic
