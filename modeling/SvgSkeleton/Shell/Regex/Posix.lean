import SvgSkeleton.Shell.Regex

/-!
How basic and extended regular expressions are written. In the basic form braces, brackets and the
signs between alternatives stand behind backslashes; in the extended form a backslash takes their
meaning away.
-/

namespace SvgSkeleton.Shell.Regex

/-- How an expression is written. -/
structure Dialect where
  /-- Do groups and alternatives have signs without backslashes? -/
  bareGroups : Bool
  /-- Are `+` and `?` repetitions without a backslash? -/
  barePlus : Bool
  /-- Do numbers of rounds stand in braces without backslashes? Without an answer there are none. -/
  bareBraces : Option Bool
  /-- Are repetitions of nothing, wrong braces and closing brackets passed over? -/
  lenient : Bool
  /-- Do line feeds begin and end lines? -/
  multiline : Bool

def Dialect.basic : Dialect := ⟨false, false, some false, false, false⟩

def Dialect.extended : Dialect := ⟨true, true, some true, false, false⟩

/-- The dialect that `find` knows. -/
def Dialect.mixed : Dialect := ⟨false, true, none, false, false⟩

/-- What is wrong with an expression. -/
inductive Fault where
  | nothingRepeated
  | openBrace
  | wrongBrace
  | emptyBrace
  | secondComma
  | disorder
  | tooGreat
  | openGroup
  | closedGroup
  | openSet
  /-- A set that ends where it begins. -/
  | emptySet
  | unknownClass
  | wrongRange
  | unknownCollation
  | unknownGroup
  | lastBackslash
  /-- A class of characters that stands in no set. -/
  | bareClass
  deriving DecidableEq

def Fault.message : Fault → String
  | .nothingRepeated => "Invalid preceding regular expression"
  | .openBrace => "Unmatched \\\x7b"
  | .wrongBrace | .emptyBrace | .secondComma | .disorder => "Invalid content of \\\x7b\\\x7d"
  | .tooGreat => "Regular expression too big"
  | .openGroup => "Unmatched ( or \\("
  | .closedGroup => "Unmatched ) or \\)"
  | .openSet => "Unmatched [, [^, [:, [., or [="
  | .emptySet => "Invalid regular expression"
  | .unknownClass => "Invalid character class name"
  | .wrongRange => "Invalid range end"
  | .unknownCollation => "Invalid collation character"
  | .unknownGroup => "Invalid back reference"
  | .lastBackslash => "Trailing backslash"
  | .bareClass => "character class syntax is [[:space:]], not [:space:]"

namespace Posix

/-- What is left of an expression that is read, how many groups have begun, which have ended, what
there is to warn of, and whether a class was found that stands in no set. -/
structure Reading where
  rest : Bytes
  groups : Nat
  closed : List Nat
  /-- What has been repeated where nothing was there to be repeated, the latest first. -/
  idle : List String
  bareClass : Bool

abbrev Read := ReaderT Dialect (StateT Reading (Except Fault))

def fail {α : Type} (f : Fault) : Read α := throw f

def rest : Read Bytes := return (← get).rest

def setRest (s : Bytes) : Read Unit := modify fun st => { st with rest := s }

/-! ### Sets -/

/-- The names of classes. -/
def classNames : List String :=
  ["alpha", "digit", "alnum", "upper", "lower", "space", "blank", "punct", "print", "graph",
   "cntrl", "xdigit"]

/-- The text up to a sign and a closing bracket, and what follows. -/
def upToSign (sign : Char) : Bytes → Bytes → Option (Bytes × Bytes)
  | _, [] => none
  | read, c :: r =>
    match r with
    | ']' :: r' => if c = sign then some (read.reverse, r') else upToSign sign (c :: read) r
    | _ => upToSign sign (c :: read) r

/-- The members of an element of a set, and what follows it. A dash that stands for itself has to be
the last character, unless it is accepted. -/
def element (acceptDash : Bool) (s : Bytes) : Except Fault (SetItem × Bytes) :=
  match s with
  | [] => .error .openSet
  | '[' :: ':' :: r =>
    match upToSign ':' [] r with
    | none => .error .openSet
    | some (name, r) =>
      if classNames.contains (String.ofList name) then .ok (.named name, r)
      else .error .unknownClass
  | '[' :: sign :: r =>
    if sign = '.' || sign = '=' then
      match upToSign sign [] r with
      | none => .error .openSet
      | some ([c], r) => .ok (.range c c, r)
      | some _ => .error .unknownCollation
    else .ok (.range '[' '[', sign :: r)
  | '-' :: c :: r =>
    if acceptDash || c = ']' then .ok (.range '-' '-', c :: r) else .error .wrongRange
  | c :: r => .ok (.range c c, r)

/-- Is the item a class of characters? -/
def isClass : SetItem → Bool
  | .named _ => true
  | .range .. => false

/-- The items of a set up to its closing bracket, which may not be the first of them, and what
follows. -/
def setItems (first : Bool) : Nat → Bytes → Except Fault (List SetItem × Bytes)
  | 0, _ => .error .openSet
  | fuel + 1, s =>
    match s with
    | [] => .error .openSet
    | ']' :: r =>
      if !first then .ok ([], r)
      else afterItem fuel (.range ']' ']') r
    | s => do
      let (item, r) ← element first s
      let equivalent := match s with
        | '[' :: '=' :: _ => true
        | _ => false
      if isClass item || equivalent then
        let (items, r) ← setItems false fuel r
        return (item :: items, r)
      else afterItem fuel item r
where
  /-- A range, if a dash follows the item; else the item, and those that follow. -/
  afterItem : Nat → SetItem → Bytes → Except Fault (List SetItem × Bytes)
    | 0, _, _ => .error .openSet
    | fuel + 1, item, r => do
      let (item, r) ←
        match item, r with
        | .range low _, '-' :: c :: r' =>
          if c = ']' then pure (item, r)
          else
            match ← element true (c :: r') with
            | (.range high _, r) =>
              if low.toNat ≤ high.toNat then pure (.range low high, r) else .error .wrongRange
            | _ => .error .wrongRange
        | item, r => pure (item, r)
      let (items, r) ← setItems false fuel r
      return (item :: items, r)

/-- Does the inside of a set look like a class that stands in no set? -/
def looksLikeClass (s : Bytes) : Bool :=
  s.head? = some ':' && s.getLast? = some ':' && s.length > 2 && !s.contains '['

/-- A set, from behind its opening bracket. In it a backslash stands for itself. -/
def readSet : Read Regex := do
  let s ← rest
  let (negated, body) := match s with
    | '^' :: r => (true, r)
    | r => (false, r)
  if body.isEmpty then fail .emptySet
  let (items, after) ← setItems true (2 * body.length + 2) body
  if looksLikeClass (body.take (body.length - after.length - 1)) then
    modify fun st => { st with bareClass := true }
  setRest after
  return .set negated (if negated && (← read).multiline then .range '\n' '\n' :: items else items)

/-! ### Repetitions -/

/-- The greatest number of rounds that may be written. -/
def mostRounds : Nat := 32767

/-- What ends a number between braces. -/
inductive NumberEnd where
  | text
  | comma
  | close
  deriving DecidableEq

/-- A number between braces up to a comma or the closing brace: its digits unless something else
stands there, what ends it, and what follows. -/
def bracedNumber (close : Bytes) (digits : Option Bytes) : Bytes →
    Option Bytes × NumberEnd × Bytes
  | [] => (digits, .text, [])
  | c :: r =>
    if close.isPrefixOf (c :: r) then (digits, .close, (c :: r).drop close.length)
    else if c = ',' then (digits, .comma, r)
    else bracedNumber close (if c.isDigit then digits.map (c :: ·) else none) r

/-- The rounds that braces tell, from behind the opening one, and what follows. -/
def braces (close : Bytes) (s : Bytes) : Except Fault (Nat × Option Nat × Bytes) :=
  let valueOf (digits : Bytes) : Option Nat :=
    if digits.isEmpty then none
    else some (min (mostRounds + 1) (Text.ofDigits 10 digits.reverse))
  let checked (least : Nat) (most : Option Nat) (r : Bytes) :
      Except Fault (Nat × Option Nat × Bytes) :=
    if most.any (· < least) then .error .disorder
    else if mostRounds < most.getD least then .error .tooGreat
    else .ok (least, most, r)
  match bracedNumber close (some []) s with
  | (_, .text, _) => .error .openBrace
  | (none, _, _) => .error .wrongBrace
  | (some low, .close, r) =>
    match valueOf low with
    | none => .error .emptyBrace
    | some n => checked n (some n) r
  | (some low, .comma, r) =>
    match bracedNumber close (some []) r with
    | (_, .text, _) => .error .openBrace
    | (none, _, _) => .error .wrongBrace
    | (some _, .comma, _) => .error .secondComma
    | (some high, .close, r) => checked ((valueOf low).getD 0) (valueOf high) r

/-- The sign of a repetition at the front of a text, and what follows it. The sign of braces is the
opening one. -/
def repetitionSign? (d : Dialect) (s : Bytes) : Option (Char × Bytes) :=
  match s with
  | '*' :: r => some ('*', r)
  | '+' :: r => if d.barePlus then some ('+', r) else none
  | '?' :: r => if d.barePlus then some ('?', r) else none
  | '\x7b' :: r => if d.bareBraces = some true then some ('\x7b', r) else none
  | '\\' :: '+' :: r => if !d.barePlus then some ('+', r) else none
  | '\\' :: '?' :: r => if !d.barePlus then some ('?', r) else none
  | '\\' :: '\x7b' :: r => if d.bareBraces = some false then some ('\x7b', r) else none
  | _ => none

/-- The rounds that a sign and what follows it tell. -/
def roundsOf? (d : Dialect) (sign : Char) (s : Bytes) :
    Except Fault (Option (Nat × Option Nat × Bytes)) :=
  match sign with
  | '*' => .ok (some (0, none, s))
  | '+' => .ok (some (1, none, s))
  | '?' => .ok (some (0, some 1, s))
  | _ =>
    match braces (if d.bareGroups then ['}'] else ['\\', '}']) s with
    | .ok found => .ok (some found)
    | .error f =>
      if d.lenient && d.bareGroups && (f = .openBrace || f = .wrongBrace) then .ok none
      else .error f

/-! ### Expressions -/

/-- The members of a class that a backslash and a letter name, and the anchors with
backslashes. -/
def shorthand? (c : Char) : Option Regex :=
  let word := [SetItem.named "alnum".toList, .range '_' '_']
  match c with
  | 'w' => some (.set false word)
  | 'W' => some (.set true word)
  | 's' => some (.set false [.named "space".toList])
  | 'S' => some (.set true [.named "space".toList])
  | 'b' => some (.anchor .wordEdge)
  | 'B' => some (.anchor .notWordEdge)
  | '<' => some (.anchor .wordStart)
  | '>' => some (.anchor .wordEnd)
  | '\x60' => some (.anchor .textStart)
  | '\'' => some (.anchor .textEnd)
  | _ => none

/-- Does an alternative begin here? -/
def alternative? (d : Dialect) (s : Bytes) : Option Bytes :=
  match d.bareGroups, s with
  | true, '|' :: r | false, '\\' :: '|' :: r => some r
  | _, _ => none

/-- Does a group begin here? -/
def opening? (d : Dialect) (s : Bytes) : Option Bytes :=
  match d.bareGroups, s with
  | true, '(' :: r | false, '\\' :: '(' :: r => some r
  | _, _ => none

/-- Does a group end here? -/
def closing? (d : Dialect) (s : Bytes) : Option Bytes :=
  match d.bareGroups, s with
  | true, ')' :: r | false, '\\' :: ')' :: r => some r
  | _, _ => none

/-- Does an alternative end here? -/
def endsBranch (d : Dialect) (nested : Bool) (s : Bytes) : Bool :=
  s.isEmpty || (alternative? d s).isSome || (nested && (closing? d s).isSome)

def lineStart (d : Dialect) : Regex := .anchor (if d.multiline then .lineStart else .textStart)

def lineEnd (d : Dialect) : Regex := .anchor (if d.multiline then .lineEnd else .textEnd)

/-- Note that something was repeated where nothing was there. -/
def noteIdle (sign : Char) : Read Unit := modify fun st =>
  { st with idle := (if sign = '\x7b' then "\x7b...\x7d" else String.singleton sign) :: st.idle }

/-- Is an expression an anchor? -/
def isAnchor : Regex → Bool
  | .anchor _ => true
  | _ => false

mutual

/-- Alternatives. -/
def readAlternatives (nested : Bool) : Nat → Read Regex
  | 0 => fail .tooGreat
  | fuel + 1 => do
    let first ← readBranch nested fuel true
    match alternative? (← read) (← rest) with
    | some r =>
      setRest r
      return .alt first (← readAlternatives nested fuel)
    | none => return first

/-- Pieces one after the other. The flag says that nothing but the start of a line stands before. -/
def readBranch (nested : Bool) : Nat → Bool → Read Regex
  | 0, _ => fail .tooGreat
  | fuel + 1, atStart => do
    if endsBranch (← read) nested (← rest) then return .empty
    let atom ← readAtom fuel atStart
    let piece ← if isAnchor atom then pure atom else readRepetitions fuel atom
    return .seq piece (← readBranch nested fuel (atStart && isAnchor atom && (← read).bareGroups))

/-- An expression with the repetitions behind it. -/
def readRepetitions : Nat → Regex → Read Regex
  | 0, _ => fail .tooGreat
  | fuel + 1, e => do
    let d ← read
    match repetitionSign? d (← rest) with
    | none => return e
    | some (sign, r) =>
      match ← roundsOf? d sign r with
      | none => return e
      | some (least, most, r) =>
        setRest r
        if !d.bareGroups && !d.lenient && d.bareBraces.isSome then
          match repetitionSign? d r with
          | some ('*', _) | some ('\x7b', _) => fail .nothingRepeated
          | _ => pure ()
        readRepetitions fuel (.repeat least most .most e)

/-- A group, from behind its opening bracket. -/
def readGroup : Nat → Read Regex
  | 0 => fail .tooGreat
  | fuel + 1 => do
    let n := (← get).groups + 1
    modify fun st => { st with groups := n }
    let e ← readAlternatives true fuel
    match closing? (← read) (← rest) with
    | some r =>
      setRest r
      modify fun st => { st with closed := n :: st.closed }
      return .group n e
    | none => fail .openGroup

/-- A repetition where nothing is there to be repeated. -/
def readIdle : Nat → Bool → Char → Bytes → Read Regex
  | 0, _, _, _ => fail .tooGreat
  | fuel + 1, atStart, sign, r => do
    let d ← read
    let plain : Read Regex := do
      setRest r
      return .char sign
    if !d.bareGroups then
      if sign = '\x7b' && !d.lenient then fail .nothingRepeated else plain
    else if !d.lenient then fail .nothingRepeated
    else
      let isRounds ← match sign with
        | '\x7b' =>
          match braces ['}'] r with
          | .ok _ => pure true
          | _ => pure false
        | _ => pure true
      if !isRounds then plain
      else
        if atStart then noteIdle sign
        setRest r
        if endsBranch d false r then return .empty
        readAtom fuel atStart

/-- A single expression. -/
def readAtom : Nat → Bool → Read Regex
  | 0, _ => fail .tooGreat
  | fuel + 1, atStart => do
    let d ← read
    let s ← rest
    match opening? d s, closing? d s, repetitionSign? d s with
    | some r, _, _ =>
      setRest r
      readGroup fuel
    | none, some r, _ =>
      if d.lenient && d.bareGroups then
        setRest r
        return .char ')'
      else fail .closedGroup
    | none, none, some (sign, r) => readIdle fuel atStart sign r
    | none, none, none =>
      match s with
      | [] => return .empty
      | '.' :: r =>
        setRest r
        return if d.multiline then .set true [.range '\n' '\n'] else .any
      | '[' :: r =>
        setRest r
        readSet
      | '^' :: r =>
        setRest r
        return if atStart || d.bareGroups then lineStart d else .char '^'
      | '$' :: r =>
        setRest r
        return if d.bareGroups || r.isEmpty || (alternative? d r).isSome || (closing? d r).isSome
          then lineEnd d else .char '$'
      | ['\\'] => fail .lastBackslash
      | '\\' :: c :: r =>
        setRest r
        match shorthand? c with
        | some e => return e
        | none =>
          if c.isDigit && c != '0' then
            let n := Text.digitValue c
            if !(← get).closed.contains n then fail .unknownGroup
            return .back n
          else return .char c
      | c :: r =>
        setRest r
        return .char c

end

/-- An expression that has been read. -/
structure Found where
  expression : Regex
  groups : Nat
  /-- The repetitions of nothing. -/
  idle : List String

/-- The expression that a text writes. -/
def parse (d : Dialect) (s : Bytes) : Except Fault Found :=
  match (readAlternatives false (8 * s.length + 32)).run d ⟨s, 0, [], [], false⟩ with
  | .error f => .error f
  | .ok (e, st) =>
    if st.bareClass then .error .bareClass else .ok ⟨e, st.groups, st.idle.reverse⟩

/-- What searches for the expression that a text writes. -/
def matcher (d : Dialect) (ignoreCase : Bool) (s : Bytes) : Except Fault Matcher :=
  (parse d s).map fun f => Matcher.ofPosix f.expression f.groups ignoreCase

end Posix
end SvgSkeleton.Shell.Regex
