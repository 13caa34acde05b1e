import SvgSkeleton.Shell.Floating
import SvgSkeleton.Shell.Bytes

/-!
The scripts of the interpreter: statements, some of which hold blocks of others, and expressions.
-/

namespace SvgSkeleton.Shell.Interpreter

/-- A value that is written in a script. -/
inductive Literal where
  | none
  | bool (b : Bool)
  | int (n : Int)
  | float (x : Floating)
  | text (s : String)
  | bytes (s : Bytes)

/-- An operator between two values. -/
inductive Operator where
  | add
  | sub
  | mul
  | div
  | floorDiv
  | mod
  | pow
  | shiftLeft
  | shiftRight
  | and
  | or
  | xor
  deriving DecidableEq

inductive Sign where
  | minus
  | plus
  | invert
  deriving DecidableEq

/-- A relation that two values may be in. -/
inductive Relation where
  | equal
  | unequal
  | less
  | lessOrEqual
  | greater
  | greaterOrEqual
  | same
  | other
  | within
  | outside
  deriving DecidableEq

/-- What a comprehension makes. -/
inductive Gathering where
  | list
  | set
  | dict
  | iterator
  deriving DecidableEq

mutual

inductive Expr where
  | literal (v : Literal)
  | name (s : String)
  | list (items : List Expr)
  | tuple (items : List Expr)
  | set (items : List Expr)
  /-- Entries; one without a key stands for all entries of a value. -/
  | dict (entries : List (Option Expr × Expr))
  /-- All items of a value, among others. -/
  | spread (e : Expr)
  | attribute (e : Expr) (name : String)
  | item (e index : Expr)
  | slice (first last step : Option Expr)
  | call (f : Expr) (args : List Argument)
  | sign (s : Sign) (e : Expr)
  | no (e : Expr)
  | apply (op : Operator) (a b : Expr)
  | compare (first : Expr) (rest : List (Relation × Expr))
  | and (a b : Expr)
  | or (a b : Expr)
  | choose (c yes no : Expr)
  | lambda (params : List Parameter) (body : Expr)
  | gather (kind : Gathering) (key : Option Expr) (element : Expr) (clauses : List Clause)
  | formatted (parts : List Part)
  | bind (name : String) (e : Expr)

/-- An argument of a call. -/
inductive Argument where
  | plain (e : Expr)
  | named (name : String) (e : Expr)
  | all (e : Expr)
  | allNamed (e : Expr)

/-- What a function is given. -/
inductive Parameter where
  | plain (name : String) (usual : Option Expr)
  | rest (name : String)
  | restNamed (name : String)
  /-- The parameters behind are only given by name. -/
  | onlyNamed

/-- A part of a comprehension. -/
inductive Clause where
  | each (target source : Expr)
  | where' (c : Expr)

/-- A part of a text with values in it. -/
inductive Part where
  | text (s : String)
  /-- A value: how it is turned into a text first, and its format. -/
  | value (e : Expr) (conversion : Option Char) (format : List Part)

end

mutual

inductive Statement where
  | expression (e : Expr)
  | assign (targets : List Expr) (value : Expr)
  | update (op : Operator) (target value : Expr)
  | cond (c : Expr) (yes no : List Located)
  | loop (c : Expr) (body otherwise : List Located)
  | each (target source : Expr) (body otherwise : List Located)
  | define (name : String) (params : List Parameter) (body : List Located)
  | answer (value : Option Expr)
  | leave
  | again
  | pass
  /-- Modules with the names that they get, and whether the names are paths. -/
  | bring (modules : List (String × Option String))
  | bringFrom (module : String) (names : List (String × String))
  | raise (e : Option Expr)
  | attempt (body : List Located) (handlers : List Handler) (otherwise finally' : List Located)
  | delete (targets : List Expr)
  | claim (c : Expr) (message : Option Expr)
  | shared (names : List String)
  | with' (items : List (Expr × Option Expr)) (body : List Located)

/-- What is done about exceptions of some kinds. -/
inductive Handler where
  | mk (kinds : Option Expr) (name : Option String) (body : List Located)

/-- A statement and its line. -/
inductive Located where
  | mk (line : Nat) (s : Statement)

end

end SvgSkeleton.Shell.Interpreter
