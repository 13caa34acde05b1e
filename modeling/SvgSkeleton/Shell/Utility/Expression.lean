import SvgSkeleton.Shell.Regex.Posix
import SvgSkeleton.Shell.Utility.Options

/-!
`expr`: an expression whose operators, numbers and strings are arguments.
-/

namespace SvgSkeleton.Shell.Expression

/-- Why an expression has no value. -/
inductive Fault where
  | missing (after : Option Bytes)
  | unexpected (arg : Bytes)
  | unclosed (after : Bytes)
  | instead (arg : Bytes)
  | unopened
  | pattern (f : Regex.Fault)
  | notNumber
  | zeroDivisor
  deriving DecidableEq

def Fault.message : Fault → Bytes
  | .missing (some a) => "syntax error: missing argument after '".toList ++ a ++ ['\'']
  | .missing none => "syntax error".toList
  | .unexpected a => "syntax error: unexpected argument '".toList ++ a ++ ['\'']
  | .unclosed a => "syntax error: expecting ')' after '".toList ++ a ++ ['\'']
  | .instead a => "syntax error: expecting ')' instead of '".toList ++ a ++ ['\'']
  | .unopened => "syntax error: unexpected ')'".toList
  | .pattern f => f.message.toList
  | .notNumber => "non-integer argument".toList
  | .zeroDivisor => "division by zero".toList

/-- The arguments that are left, the last one that has been taken, and whether the values that are
read count. -/
structure State where
  rest : List Bytes
  last : Option Bytes
  counts : Bool

abbrev Read := StateT State (Except Fault)

def next? : Read (Option Bytes) := return (← get).rest.head?

def take : Read Unit := modify fun s =>
  { s with rest := s.rest.tail, last := s.rest.head? }

def fail {α : Type} (f : Fault) : Read α := throw f

/-- Does a value count as false? -/
def isNull (s : Bytes) : Bool :=
  match s with
  | [] => true
  | '-' :: r => !r.isEmpty && r.all (· == '0')
  | s => s.all (· == '0')

/-- The whole number that a value is. -/
def number? (s : Bytes) : Option Int :=
  match s with
  | '+' :: _ => none
  | s => Bytes.toInt? s

def number (s : Bytes) : Read Int :=
  match number? s with
  | some n => return n
  | none => fail .notNumber

def truth (b : Bool) : Bytes := if b then ['1'] else ['0']

/-- The part of a text that an expression matches from its beginning on: the first group if there
is one, else the length. -/
def matched (text pattern : Bytes) : Read Bytes := do
  if !(← get).counts then return text
  match Regex.Posix.matcher { Regex.Dialect.basic with lenient := true } false pattern with
  | .error f => fail (.pattern f)
  | .ok m =>
    let grouped := m.groups > 0
    match m.matchAt? (.start text) with
    | none => return if grouped then [] else ['0']
    | some found =>
      return if grouped then (found.group? 1).getD [] else Bytes.ofNat found.text.length

/-- How two values compare: as numbers if both are. -/
def compare (op : String) (a b : Bytes) : Bool :=
  let o : Ordering := match number? a, number? b with
    | some x, some y => Ord.compare x y
    | _, _ => if a = b then .eq else if decide (a < b) then .lt else .gt
  match op with
  | "<" => o == .lt
  | "<=" => o != .gt
  | "=" | "==" => o == .eq
  | "!=" => o != .eq
  | ">=" => o != .lt
  | _ => o == .gt

/-- The operators, by how tightly they bind, loosest first. -/
def levels : List (List String) :=
  [["|"], ["&"], ["<", "<=", "=", "==", "!=", ">=", ">"], ["+", "-"], ["*", "/", "%"], [":"]]

/-- What an operator makes of two values. -/
def apply (op : String) (a b : Bytes) : Read Bytes := do
  if op = ":" then return ← matched a b
  if !(← get).counts then return a
  match op with
  | "|" => return if !isNull a then a else if !isNull b then b else ['0']
  | "&" => return if isNull a || isNull b then ['0'] else a
  | "+" => return Bytes.ofInt ((← number a) + (← number b))
  | "-" => return Bytes.ofInt ((← number a) - (← number b))
  | "*" => return Bytes.ofInt ((← number a) * (← number b))
  | "/" | "%" =>
    let x ← number a
    let y ← number b
    if y = 0 then fail .zeroDivisor
    return Bytes.ofInt (if op = "/" then x.tdiv y else x.tmod y)
  | op => return truth (compare op a b)

/-- Read something whose value counts only under a condition. -/
def countingIf (condition : Bool) (act : Read Bytes) : Read Bytes := do
  let counts := (← get).counts
  modify fun s => { s with counts := counts && condition }
  let v ← act
  modify fun s => { s with counts := counts }
  return v

mutual

/-- A value of operators that bind at least as tightly as those of a level. -/
def value : Nat → List (List String) → Read Bytes
  | 0, _ => fail (.missing none)
  | fuel + 1, [] => primary fuel
  | fuel + 1, ops :: tighter => do
    let first ← value fuel tighter
    operations fuel ops tighter first

/-- The operations of a level that follow a value. -/
def operations : Nat → List String → List (List String) → Bytes → Read Bytes
  | 0, _, _, a => return a
  | fuel + 1, ops, tighter, a => do
    match ← next? with
    | none => return a
    | some op =>
      if !ops.contains (String.ofList op) then return a
      take
      let matters := match op with
        | ['|'] => isNull a
        | ['&'] => !isNull a
        | _ => true
      let b ← countingIf matters (value fuel tighter)
      operations fuel ops tighter (← apply (String.ofList op) a b)

def primary : Nat → Read Bytes
  | 0 => fail (.missing none)
  | fuel + 1 => do
    match ← next? with
    | none => fail (.missing (← get).last)
    | some a =>
      take
      let operand : Read Bytes := primary fuel
      match String.ofList a, (← get).rest with
      | "(", _ =>
        let v ← value fuel levels
        match ← next? with
        | some [')'] =>
          take
          return v
        | some other => fail (.instead other)
        | none => fail (.unclosed ((← get).last.getD []))
      | ")", _ => fail .unopened
      | "+", s :: _ =>
        take
        return s
      | "+", [] => fail (.missing (some a))
      | "length", _ => do return Bytes.ofNat (← operand).length
      | "match", _ =>
        let text ← operand
        matched text (← operand)
      | "index", _ =>
        let text ← operand
        let set ← operand
        return Bytes.ofNat (match text.findIdx? set.contains with
          | some i => i + 1
          | none => 0)
      | "substr", _ =>
        let text ← operand
        let start ← operand
        let n ← operand
        match number? start, number? n with
        | some start, some n =>
          if start ≤ 0 || n ≤ 0 then return []
          return (text.drop (start.toNat - 1)).take n.toNat
        | _, _ => return []
      | _, _ => return a

end

end SvgSkeleton.Shell.Expression

namespace SvgSkeleton.Shell

/-- The value of an expression, written on a line; nothing and zero count as failures. -/
def expr : Utility := fun name args => do
  let args := if args.head? = some ['-', '-'] then args.tail else args
  if args.isEmpty then misused name "missing operand".toList 2
  else
    let fuel := 16 * args.length + 64
    match (Expression.value fuel Expression.levels).run ⟨args, none, true⟩ with
    | .error fault =>
      utilityError name fault.message
      return 2
    | .ok (v, ⟨[], _, _⟩) =>
      write 1 (v ++ ['\n'])
      return if Expression.isNull v then 1 else 0
    | .ok (_, ⟨extra :: _, _, _⟩) =>
      utilityError name (Expression.Fault.unexpected extra).message
      return 2

end SvgSkeleton.Shell
