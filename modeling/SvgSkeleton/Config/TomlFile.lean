import SvgSkeleton.Config.Moment
import SvgSkeleton.Config.Settings
import SvgSkeleton.Config.TomlToken

/-!
A configuration file in TOML. Every line is empty, begins the table of variables, or sets a value;
variables may also be set by dotted names or by a table on one line. A moment counts as a table of
one entry, its text. All that is not a setting of the right type makes the file unusable, and so
does setting or opening anything twice.
-/

namespace SvgSkeleton.Config.Toml

/-- How the table of variables came about: not yet, by dotted names, or as a whole. -/
inductive Origin where
  | absent
  | dotted
  | whole
  deriving DecidableEq, Repr

/-- The settings read so far. `inside` says that the lines are in the table of variables. -/
structure State where
  settings : Settings
  origin : Origin
  inside : Bool

def State.init : State := ⟨.empty, .absent, false⟩

/-- The name that a word gives on the left of a value. -/
def keyOf : Token → Option String
  | .bare w => if w.toList.contains '+' then none else some w
  | .text s => some s
  | _ => none

/-- The text that a word is. -/
def textOf : Token → Option String
  | .text s | .block s => some s
  | _ => none

/-- A digit in some base. -/
def digitIn (base : Nat) (c : Char) : Option Nat := (Text.hexValue c).filter (· < base)

/-- What a whole number must stay below: it has 63 bits. -/
def numberLimit : Nat := 1 <<< 63

/-- The number that digits write behind those that write `value`. Single underscores may stand
between them. -/
def digits (base value : Nat) : List Char → Option Nat
  | [] => if value < numberLimit then some value else none
  | '_' :: c :: r => (digitIn base c).bind fun d => next (value * base + d) r
  | c :: r => (digitIn base c).bind fun d => next (value * base + d) r
where
  /-- Read on, unless the number is too large already. -/
  next (value : Nat) (r : List Char) : Option Nat :=
    if value < numberLimit then digits base value r else none

/-- The value of digits, at least one. -/
def someDigits (base : Nat) : List Char → Option Nat
  | [] => none
  | c :: r => (digitIn base c).bind fun d => digits base d r

/-- The value of a whole number in decimal, which does not begin with a zero unless it is zero. -/
def decimal : List Char → Option Nat
  | ['0'] => some 0
  | '0' :: _ => none
  | s => someDigits 10 s

/-- The value of a whole number that is not negative. -/
def natural (word : List Char) : Option Nat :=
  match word with
  | '0' :: 'x' :: r => someDigits 16 r
  | '0' :: 'o' :: r => someDigits 8 r
  | '0' :: 'b' :: r => someDigits 2 r
  | '+' :: r => decimal r
  | '-' :: r => (decimal r).filter (· = 0)
  | s => decimal s

/-- The variables with one more, whose name must be new. -/
def addText (c : Catalog String) (key value : Token) : Option (Catalog String) := do
  let name ← keyOf key
  let text ← textOf value
  if c.contains name then none else return c.insert name text

/-- The variables of a table on one line, from behind its brace or a comma. -/
def inlineTable (c : Catalog String) : List Token → Option (Catalog String)
  | [key, .sign '=', value, .sign '\x7d'] => addText c key value
  | key :: .sign '=' :: value :: .sign ',' :: rest => do inlineTable (← addText c key value) rest
  | _ => none

/-- The value, if nothing is set so far. -/
def once {α : Type} (set : Option α) (value : Option α) : Option α :=
  if set.isSome then none else value

/-- The name under which a moment holds its text. -/
def momentKey : String := "$__toml_private_datetime"

/-- The table that a moment is. -/
def momentTable (word : String) : Option (Catalog String) :=
  (Moment.ofText? word.toList).map fun m => Catalog.empty.insert momentKey m.text

/-- A setting with the words of its value. -/
def State.set (s : State) (field : Field) (value : List Token) : Option State := do
  let t := s.settings
  match field, value with
  | .fontsFolder, [v] =>
    return { s with settings := { t with fontsFolder := ← once t.fontsFolder (textOf v) } }
  | .templateCommand, [v] =>
    return { s with settings := { t with templateCommand := ← once t.templateCommand (textOf v) } }
  | .maxDepth, [.number w] =>
    return { s with settings := { t with maxDepth := ← once t.maxDepth (natural w.toList) } }
  | .debug, [.bare "true"] =>
    return { s with settings := { t with debug := ← once t.debug (some true) } }
  | .debug, [.bare "false"] =>
    return { s with settings := { t with debug := ← once t.debug (some false) } }
  | .vars, [.number w] =>
    return ⟨{ t with vars := ← once t.vars (momentTable w) }, .whole, false⟩
  | .vars, [.sign '\x7b', .sign '\x7d'] =>
    return ⟨{ t with vars := ← once t.vars (some .empty) }, .whole, false⟩
  | .vars, .sign '\x7b' :: rest =>
    return ⟨{ t with vars := ← once t.vars (inlineTable .empty rest) }, .whole, false⟩
  | _, _ => none

/-- One more variable. -/
def State.addVariable (s : State) (key value : Token) : Option State := do
  let vars ← addText (s.settings.vars.getD .empty) key value
  return { s with settings := { s.settings with vars := some vars } }

/-- The words of one line. -/
def State.line (s : State) (words : List Token) : Option State :=
  match words with
  | [] => some s
  | [.sign '[', key, .sign ']'] =>
    if keyOf key = some Field.vars.name ∧ s.origin = .absent then
      some ⟨{ s.settings with vars := some .empty }, .whole, true⟩
    else none
  | key :: .sign '=' :: value =>
    if s.inside then
      match value with
      | [v] => s.addVariable key v
      | _ => none
    else ((keyOf key).bind Field.ofName?).bind fun field => s.set field value
  | [table, .sign '.', key, .sign '=', v] =>
    if !s.inside && keyOf table = some Field.vars.name && s.origin != .whole then
      { s with origin := .dotted }.addVariable key v
    else none
  | _ => none

/-- The lines of words. -/
def lines : List Token → List (List Token)
  | [] => [[]]
  | t :: r =>
    if t = .newline then [] :: lines r
    else
      match lines r with
      | [] => [[t]]
      | l :: ls => (t :: l) :: ls

/-- The settings of a file. -/
def settings (text : String) : Option Settings := do
  let s ← (lines (← tokens text.toList)).foldlM State.line .init
  return s.settings

end SvgSkeleton.Config.Toml
