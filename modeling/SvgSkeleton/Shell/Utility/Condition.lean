import SvgSkeleton.Shell.Utility.Options
import SvgSkeleton.Shell.Whole

/-!
Conditions on strings, numbers and files, and the shell's own way to read them: what an argument
means depends on the arguments behind it.
-/

namespace SvgSkeleton.Shell.Condition

/-! ### Files -/

/-- The place at a path and what stands there, the last link followed or not. -/
def found (follow : Bool) (path : Bytes) : Shell (Option (Place × FileTree)) := do
  let m ← get
  let bytes := Bytes.toList path
  let route := FileTree.steps bytes
  let place : Option Place :=
    match follow, FileTree.checkPath bytes, route.getLast? with
    | false, .ok (), some (.down name) =>
      match m.tree.walk none FileTree.linkLimit (FileTree.startOf m.cwd bytes) route.dropLast with
      | .ok (place, _) => some (name :: place).reverse
      | .error _ => none
    | _, _, _ => (m.tree.locate m.cwd bytes).toOption
  return do
    let p ← place
    return (p, ← m.tree.at? p)

/-- A condition on a file. -/
def onFile (letter : Char) (path : Bytes) : Shell Bool := do
  match ← found (letter != 'L' && letter != 'h') path with
  | none => return false
  | some (place, node) =>
    let mode := modeAt (← get) place
    return match letter, node with
      | 'f', .file _ | 'f', .special (.program _) => true
      | 'd', .folder _ => true
      | 's', .file content => !content.isEmpty
      | 's', .folder _ | 's', .special (.program _) => true
      | 'L', .link _ | 'h', .link _ => true
      | 'c', .special .pipe | 'c', .special (.program _) => false
      | 'c', .special _ => true
      | 'p', .special .pipe => true
      | 'x', .folder _ => true
      | 'x', _ => mode &&& 0o111 != 0
      | 'u', _ => mode &&& 0o4000 != 0
      | 'g', _ => mode &&& 0o2000 != 0
      | 'k', _ => mode &&& 0o1000 != 0
      | c, _ => "erwOG".toList.contains c

/-- Do two paths lead to the same file? -/
def sameFile (a b : Bytes) : Shell Bool := do
  match ← locate a, ← locate b with
  | .ok p, .ok q => return p == q
  | _, _ => return false

/-- Is the first file younger? Both of them must be there, or just the first one if that is
enough. -/
def younger (alone : Bool) (a b : Bytes) : Shell Bool := do
  let m ← get
  match ← found true a, ← found true b with
  | some (p, _), some (q, _) => return changedAt m p > changedAt m q
  | some _, none => return alone
  | none, _ => return false

/-! ### Words -/

def unarySigns : List Char := "rwxefdcbpugkstznhOGLS".toList

inductive Comparison where
  | same | different | before | behind
  | equal | unequal | atLeast | greater | atMost | less
  | younger | older | sameFile
  deriving DecidableEq, Repr

def comparisons : List (String × Comparison) :=
  [("=", .same), ("!=", .different), ("<", .before), (">", .behind), ("-eq", .equal),
   ("-ne", .unequal), ("-ge", .atLeast), ("-gt", .greater), ("-le", .atMost), ("-lt", .less),
   ("-nt", .younger), ("-ot", .older), ("-ef", .sameFile)]

/-- The order of two numbers that a comparison asks for. -/
def Comparison.ofOrder (c : Comparison) (o : Ordering) : Bool :=
  match c with
  | .equal => o == .eq
  | .unequal => o != .eq
  | .atLeast => o != .lt
  | .greater => o == .gt
  | .atMost => o != .gt
  | _ => o == .lt

/-- What an argument means. -/
inductive Sense where
  | over
  | operand
  | unary (letter : Char)
  | binary (c : Comparison)
  | not
  | conj
  | disj
  | opening
  | closing
  deriving DecidableEq

def comparison? (s : Bytes) : Option Comparison := comparisons.lookup (String.ofList s)

/-- The meaning of the first argument, looked at with those behind it: a sign is an operand where
nothing follows that it could apply to. -/
def sense (args : List Bytes) : Sense :=
  match args with
  | [] => .over
  | s :: rest =>
    match s with
    | ['!'] => .not
    | ['-', 'a'] => .conj
    | ['-', 'o'] => .disj
    | ['('] => if rest.isEmpty then .operand else .opening
    | [')'] => .closing
    | ['-', c] =>
      if !unarySigns.contains c then .operand
      else
        match rest with
        | [] => .operand
        | [_] => .unary c
        | next :: _ => if (comparison? next).isSome then .operand else .unary c
    | s =>
      match comparison? s with
      | some c => .binary c
      | none => .operand

/-! ### Values -/

abbrev Check := StateT (List Bytes) Shell

/-- End the command with a complaint. -/
def fail {α : Type} (s : Bytes) : Check α := failWith s

/-- A decimal number that an argument must be. -/
def number (s : Bytes) : Shell Int := do
  let w := Whole.signed (some 10) s
  if w.clamped || w.rest.length = s.length || !w.rest.all Whole.isSpace then
    failWith ("Illegal number: ".toList ++ s)
  return w.value

def unary (letter : Char) (arg : Bytes) : Shell Bool := do
  match letter with
  | 'n' => return !arg.isEmpty
  | 'z' => return arg.isEmpty
  | 't' =>
    let _ ← number arg
    return false
  | c => onFile c arg

def binary (c : Comparison) (a b : Bytes) : Shell Bool := do
  match c with
  | .same => return a == b
  | .different => return a != b
  | .before => return decide (a < b)
  | .behind => return decide (b < a)
  | .younger => younger false a b
  | .older => younger false b a
  | .sameFile => sameFile a b
  | c =>
    let x ← number a
    let y ← number b
    return c.ofOrder (Ord.compare x y)

mutual

/-- Conditions of which one must hold. The argument at hand stays the last one that has been
used. -/
def disjunction : Nat → Sense → Check Bool
  | 0, _ => return false
  | fuel + 1, first => do
    let a ← conjunction fuel first
    if sense (← get).tail != .disj then return a
    modify (·.drop 2)
    let b ← disjunction fuel (sense (← get))
    return a || b

def conjunction : Nat → Sense → Check Bool
  | 0, _ => return false
  | fuel + 1, first => do
    let a ← negation fuel first
    if sense (← get).tail != .conj then return a
    modify (·.drop 2)
    let b ← conjunction fuel (sense (← get))
    return a && b

def negation : Nat → Sense → Check Bool
  | 0, _ => return false
  | fuel + 1, first => do
    if first != .not then primary fuel first
    else
      let next := sense (← get).tail
      if next != .over then modify (·.tail)
      return !(← negation fuel next)

def primary : Nat → Sense → Check Bool
  | 0, _ => return false
  | fuel + 1, first => do
    match first with
    | .over => return false
    | .opening =>
      modify (·.tail)
      let next := sense (← get)
      if next = .closing then return false
      let value ← disjunction fuel next
      modify (·.tail)
      if sense (← get) != .closing then fail "closing paren expected".toList
      return value
    | .unary c =>
      let sign := (← get).headD []
      modify (·.tail)
      match (← get).head? with
      | none => fail (sign ++ ": argument expected".toList)
      | some arg => unary c arg
    | _ =>
      let args ← get
      let a := args.headD []
      match sense args.tail with
      | .binary c =>
        modify (·.drop 2)
        match (← get).head? with
        | none => fail (args.tail.headD [] ++ ": argument expected".toList)
        | some b => binary c a b
      | _ => return !a.isEmpty

end

/-- The value of a condition. -/
def whole (first : Sense) (args : List Bytes) : Shell Bool := do
  let (value, rest) ← (disjunction (8 * args.length + 8) first).run args
  match rest with
  | s :: _ :: _ =>
    failWith ((if s.isEmpty then [] else s ++ ": ".toList) ++ "unexpected operator".toList)
  | _ => return value

/-- The value of a condition, where three and four arguments have meanings of their own. -/
def value : Nat → List Bytes → Shell Bool
  | 0, _ => return false
  | fuel + 1, args => do
    let few := args.length = 3 || args.length = 4
    if args.isEmpty then return false
    else if args.length = 3 && (comparison? (args.getD 1 [])).isSome then whole .operand args
    else if few && args.head? = some ['('] && args.getLast? = some [')'] then
      let inner := args.tail.dropLast
      whole (sense inner) inner
    else if few && args.head? = some ['!'] then return !(← value fuel args.tail)
    else whole (sense args) args

/-- The command under one of its names; `[` needs a bracket at its end. -/
def run (name : Bytes) (args : List Bytes) : Shell Nat := do
  let bracket := name = ['[']
  if bracket && (args.getLastD ['[']).head? != some ']' then failWith "missing ]".toList
  let inner := if bracket then args.dropLast else args
  return if ← value (inner.length + 1) inner then 0 else 1

end SvgSkeleton.Shell.Condition
