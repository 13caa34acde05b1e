import SvgSkeleton.Shell.Floating
import SvgSkeleton.Shell.Utility.Awk.Pattern

/-!
The programs of `awk`: rules, each of a pattern and what is done where it fits, and functions.
-/

namespace SvgSkeleton.Shell.Awk

/-- An operator between numbers. -/
inductive Operator where
  | add
  | sub
  | mul
  | div
  | mod
  | pow
  deriving DecidableEq

/-- An order that two values may be in. -/
inductive Relation where
  | less
  | lessOrEqual
  | equal
  | unequal
  | greater
  | greaterOrEqual
  deriving DecidableEq

/-- A variable: one of all, or an argument of the function at work. -/
inductive Name where
  | shared (n : Nat)
  | own (n : Nat)
  deriving DecidableEq

/-- The functions that are there. -/
inductive Function where
  | length
  | substr
  | index
  | split
  | substitute (all : Bool)
  | find
  | sprintf
  | sin
  | cos
  | atan2
  | exp
  | log
  | sqrt
  | int
  | rand
  | srand
  | tolower
  | toupper
  | close
  | system
  | fflush
  | mktime
  | strftime
  | systime
  deriving DecidableEq

/-- Where a line is read from. -/
inductive Origin where
  | main
  | file
  | command
  deriving DecidableEq

inductive Expr where
  | number (x : Floating)
  | text (s : Bytes)
  /-- An expression that is searched for in the line at hand. -/
  | pattern (m : Matcher)
  | name (v : Name)
  | field (e : Expr)
  | element (table : Name) (keys : List Expr)
  /-- An expression in parentheses. -/
  | group (e : Expr)
  | assign (target value : Expr)
  | update (op : Operator) (target value : Expr)
  /-- One up or down, and the value before or behind that. -/
  | step (before up : Bool) (target : Expr)
  | apply (op : Operator) (a b : Expr)
  | compare (r : Relation) (a b : Expr)
  | fits (negated : Bool) (text pattern : Expr)
  | join (a b : Expr)
  | no (e : Expr)
  | minus (e : Expr)
  | plus (e : Expr)
  | and (a b : Expr)
  | or (a b : Expr)
  | choose (c a b : Expr)
  | has (table : Name) (keys : List Expr)
  | call (function : Nat) (args : List Expr)
  | builtin (f : Function) (args : List Expr)
  | line (origin : Origin) (source target : Option Expr)

/-- Can a value be given to the expression? -/
def Expr.isTarget : Expr → Bool
  | .name _ | .field _ | .element _ _ => true
  | _ => false

/-- Where something is written to. -/
inductive Way where
  | anew
  | behind
  | command
  deriving DecidableEq

inductive Statement where
  | nothing
  | expression (e : Expr)
  | print (args : List Expr) (goal : Option (Way × Expr))
  | printf (args : List Expr) (goal : Option (Way × Expr))
  | block (body : List Statement)
  | cond (c : Expr) (yes no : Statement)
  | loop (c : Expr) (body : Statement)
  | loopAfter (body : Statement) (c : Expr)
  | count (start : Option Expr) (c : Option Expr) (step : Option Expr) (body : Statement)
  | each (target : Name) (table : Name) (body : Statement)
  | next
  | nextFile
  | exit (status : Option Expr)
  | answer (value : Option Expr)
  | leave
  | again
  | delete (table : Name) (keys : Option (List Expr))

/-- When a rule is carried out. -/
inductive When where
  | always
  | holds (e : Expr)
  | between (first last : Expr)

structure Rule where
  pattern : When
  /-- Without a body the line is printed. -/
  body : Option Statement

/-- What a variable is used as. -/
inductive Kind where
  | unknown
  | scalar
  | table
  deriving DecidableEq

/-- A function of a program. -/
structure Definition where
  name : Bytes
  kinds : Array Kind
  body : Statement

structure Program where
  begins : List Statement
  rules : List Rule
  ends : List Statement
  functions : Array Definition
  /-- The names of the variables, and what they are used as. -/
  names : Array Bytes
  kinds : Array Kind

end SvgSkeleton.Shell.Awk
