import SvgSkeleton.Text.Character

/-!
The words of a configuration file in TOML, read in one pass: bare words, numbers and moments, texts
of one line or of several, signs, and line breaks. Blanks and comments are dropped.
-/

namespace SvgSkeleton.Config.Toml

/-- A word of a file. A word that begins like a number in the place of a value is not a bare one:
there may be dots and colons in it, and a blank between a date and a time of day. -/
inductive Token where
  | bare (word : String)
  | number (word : String)
  | text (value : String)
  | block (value : String)
  | sign (c : Char)
  | newline
  deriving DecidableEq, Repr

/-- What the next character is part of. `quote` is the quote of the text that it stands in; `run`
counts the quotes just read, which may end a text of several lines, and `fresh` says that nothing
of that text has been read. -/
inductive Mode where
  | gap
  | bare
  | number
  | numberGap
  | comment
  | afterReturn
  | opening (quote : Char) (run : Nat)
  | line (quote : Char)
  | block (quote : Char) (run : Nat) (fresh : Bool)
  | blockReturn (quote : Char) (fresh : Bool)
  | escape (several : Bool)
  | hex (several : Bool) (left value : Nat)
  | fold (broken : Bool)
  | foldReturn
  deriving DecidableEq, Repr

/-- The words read and the characters of the last one, latest first. -/
structure Scan where
  tokens : List Token
  read : List Char
  mode : Mode

def Scan.init : Scan := ⟨[], [], .gap⟩

/-- The characters of the last word in order. -/
def Scan.word (s : Scan) : String := String.ofList s.read.reverse

/-- Another word, and nothing begun. -/
def Scan.emit (s : Scan) (t : Token) : Scan := ⟨t :: s.tokens, [], .gap⟩

/-- The next mode. -/
def Scan.enter (s : Scan) (mode : Mode) : Scan := { s with mode := mode }

/-- One more character of the last word, and then the next mode. -/
def Scan.push (s : Scan) (c : Char) (mode : Mode) : Scan := ⟨s.tokens, c :: s.read, mode⟩

/-- Is the character allowed inside texts and comments? -/
def isPlain (c : Char) : Bool := c == '\t' || (0x20 ≤ c.toNat && c.toNat != 0x7F)

/-- May the character stand in a bare word? -/
def isBare (c : Char) : Bool := c.isAlphanum || c == '_' || c == '-' || c == '+'

/-- A character between words. -/
def Scan.gap (s : Scan) (c : Char) : Option Scan :=
  if c = ' ' || c = '\t' then some (s.enter .gap)
  else if c = '\n' then some (s.emit .newline)
  else if c = '\r' then some (s.enter .afterReturn)
  else if c = '#' then some (s.enter .comment)
  else if c = '"' || c = '\'' then some (s.enter (.opening c 1))
  else if c = '=' || c = '.' || c = ',' || c = '[' || c = ']' || c = '{' || c = '}' then
    some (s.emit (.sign c))
  else if s.tokens.head? = some (.sign '=') && (c.isDigit || c = '+' || c = '-') then
    some (s.push c .number)
  else if isBare c then some (s.push c .bare)
  else none

/-- How many characters a date has. -/
def dateLength : Nat := 10

/-- A character behind those of a number or a moment. -/
def Scan.number (s : Scan) (c : Char) : Option Scan :=
  if isBare c || c = '.' || c = ':' then some (s.push c .number)
  else if c = ' ' && s.read.length = dateLength then some (s.enter .numberGap)
  else (s.emit (.number s.word)).gap c

/-- A character behind a date and a blank. -/
def Scan.numberGap (s : Scan) (c : Char) : Option Scan :=
  if c.isDigit then some ((s.push ' ' .number).push c .number)
  else (s.emit (.number s.word)).gap c

/-- A character of a text of one line. -/
def Scan.line (s : Scan) (quote c : Char) : Option Scan :=
  if c = quote then some (s.emit (.text s.word))
  else if quote = '"' && c = '\\' then some (s.enter (.escape false))
  else if isPlain c then some (s.push c (.line quote))
  else none

/-- A line break in a text of several lines; one at its beginning does not count. -/
def Scan.lineBreak (s : Scan) (quote : Char) (fresh : Bool) : Scan :=
  if fresh then s.enter (.block quote 0 false) else s.push '\n' (.block quote 0 false)

/-- A character of a text of several lines that is not a quote. -/
def Scan.inBlock (s : Scan) (quote : Char) (fresh : Bool) (c : Char) : Option Scan :=
  if quote = '"' && c = '\\' then some (s.enter (.escape true))
  else if c = '\n' then some (s.lineBreak quote fresh)
  else if c = '\r' then some (s.enter (.blockReturn quote fresh))
  else if isPlain c then some (s.push c (.block quote 0 false))
  else none

/-- The text of several lines that the last three of a run of quotes end. -/
def Scan.endBlock (s : Scan) (quote : Char) (run : Nat) : Scan :=
  let s := { s with read := List.replicate (run - 3) quote ++ s.read }
  s.emit (.block s.word)

/-- The mode inside a text in double quotes. -/
def inside (several : Bool) : Mode := if several then .block '"' 0 false else .line '"'

/-- The character that a letter stands for behind a backslash. -/
def escapeLetter : Char → Option Char
  | 'b' => some '\x08'
  | 't' => some '\t'
  | 'n' => some '\n'
  | 'f' => some '\x0c'
  | 'r' => some '\r'
  | '"' => some '"'
  | '\\' => some '\\'
  | _ => none

/-- The character behind a backslash. -/
def Scan.escape (s : Scan) (several : Bool) (c : Char) : Option Scan :=
  match escapeLetter c with
  | some x => some (s.push x (inside several))
  | none =>
    if c = 'u' then some (s.enter (.hex several 4 0))
    else if c = 'U' then some (s.enter (.hex several 8 0))
    else if several && (c = ' ' || c = '\t') then some (s.enter (.fold false))
    else if several && c = '\n' then some (s.enter (.fold true))
    else if several && c = '\r' then some (s.enter .foldReturn)
    else none

/-- A digit of a code point, of which `left` are still to come. -/
def Scan.hex (s : Scan) (several : Bool) (left value : Nat) (c : Char) : Option Scan :=
  match Text.hexValue c with
  | none => none
  | some d =>
    let value := value * 16 + d
    if left > 1 then some (s.enter (.hex several (left - 1) value))
    else if value.isValidChar then some (s.push (Char.ofNat value) (inside several))
    else none

/-- One more character. -/
def Scan.step (s : Scan) (c : Char) : Option Scan :=
  match s.mode with
  | .gap => s.gap c
  | .bare => if isBare c then some (s.push c .bare) else (s.emit (.bare s.word)).gap c
  | .number => s.number c
  | .numberGap => s.numberGap c
  | .comment =>
    if c = '\n' || c = '\r' then s.gap c else if isPlain c then some s else none
  | .afterReturn => if c = '\n' then some (s.emit .newline) else none
  | .opening quote run =>
    if c = quote then
      some (s.enter (if run = 1 then .opening quote 2 else .block quote 0 true))
    else if run = 1 then s.line quote c
    else (s.emit (.text "")).gap c
  | .line quote => s.line quote c
  | .block quote run fresh =>
    if c = quote then
      if run = 4 then some (s.endBlock quote 5) else some (s.enter (.block quote (run + 1) false))
    else if run ≥ 3 then (s.endBlock quote run).gap c
    else { s with read := List.replicate run quote ++ s.read }.inBlock quote (fresh && run = 0) c
  | .blockReturn quote fresh => if c = '\n' then some (s.lineBreak quote fresh) else none
  | .escape several => s.escape several c
  | .hex several left value => s.hex several left value c
  | .fold broken =>
    if c = ' ' || c = '\t' then some s
    else if c = '\n' then some (s.enter (.fold true))
    else if c = '\r' then some (s.enter .foldReturn)
    else if !broken then none
    else if c = '"' then some (s.enter (.block '"' 1 false))
    else s.inBlock '"' false c
  | .foldReturn => if c = '\n' then some (s.enter (.fold true)) else none

/-- The words, if the file may end here. -/
def Scan.finish (s : Scan) : Option (List Token) :=
  match s.mode with
  | .gap | .comment => some s.tokens.reverse
  | .bare => some (s.emit (.bare s.word)).tokens.reverse
  | .number | .numberGap => some (s.emit (.number s.word)).tokens.reverse
  | .opening _ 2 => some (s.emit (.text "")).tokens.reverse
  | .block quote run _ =>
    if run ≥ 3 then some (s.endBlock quote run).tokens.reverse else none
  | _ => none

/-- The words of a file; a byte-order mark at its beginning does not count. -/
def tokens (s : List Char) : Option (List Token) := do
  let s := match s with
    | '\uFEFF' :: r => r
    | s => s
  let s ← s.foldlM Scan.step .init
  s.finish

end SvgSkeleton.Config.Toml
