import SvgSkeleton.Shell.Regex

/-!
Regular expressions of the kind that looks around: classes behind backslashes, groups with a
question mark behind their bracket, and repetitions that take as little as they can.
-/

namespace SvgSkeleton.Shell.Regex.Perl

/-- The settings that letters in an expression turn on and off. -/
structure Settings where
  ignoreCase : Bool
  multiline : Bool
  dotAll : Bool
  /-- Blanks and comments in the expression mean nothing. -/
  spaced : Bool

def Settings.usual : Settings := ⟨false, false, false, false⟩

/-- What is wrong with an expression. -/
inductive Fault where
  | openGroup
  | closedGroup
  | openSet
  | nothingRepeated
  | disorder
  | tooGreat
  | lastBackslash
  | unknownClass
  | wrongRange
  | unknownGroup
  | varyingLength
  | unknownSign
  | unknownProperty
  | repeatedName
  | wrongName
  deriving DecidableEq

def Fault.message : Fault → String
  | .openGroup => "missing closing parenthesis"
  | .closedGroup => "unmatched closing parenthesis"
  | .openSet => "missing terminating ] for character class"
  | .nothingRepeated => "quantifier does not follow a repeatable item"
  | .disorder => "numbers out of order in \x7b\x7d quantifier"
  | .tooGreat => "number too big in \x7b\x7d quantifier"
  | .lastBackslash => "\\ at end of pattern"
  | .unknownClass => "unknown POSIX class name"
  | .wrongRange => "range out of order in character class"
  | .unknownGroup => "reference to non-existent subpattern"
  | .varyingLength => "lookbehind assertion is not fixed length"
  | .unknownSign => "unrecognized character after (? or (?-"
  | .unknownProperty => "unknown property after \\P or \\p"
  | .repeatedName => "two named subpatterns have the same name (PCRE2_DUPNAMES not set)"
  | .wrongName => "syntax error in subpattern name (missing terminator?)"

structure Reading where
  rest : Bytes
  groups : Nat
  names : List (Bytes × Nat)
  settings : Settings
  /-- The greatest number of a group that is referred to, and the names. -/
  referred : Nat
  referredNames : List Bytes

abbrev Read := StateT Reading (Except Fault)

def fail {α : Type} (f : Fault) : Read α := throw f

def rest : Read Bytes := return (← get).rest

def setRest (s : Bytes) : Read Unit := modify fun st => { st with rest := s }

/-! ### Escapes -/

def wordItems : List SetItem := [.named "alnum".toList, .range '_' '_']

/-- The class that a backslash and a letter name: is it all but these items? -/
def classOf? (c : Char) : Option (Bool × List SetItem) :=
  let across : List SetItem := [.range ' ' ' ', .range '\t' '\t', .range '\xa0' '\xa0']
  let down : List SetItem := [.range '\n' '\r', .range '\x85' '\x85']
  match c with
  | 'd' => some (false, [.range '0' '9'])
  | 'D' => some (true, [.range '0' '9'])
  | 'w' => some (false, wordItems)
  | 'W' => some (true, wordItems)
  | 's' => some (false, [.named "space".toList])
  | 'S' => some (true, [.named "space".toList])
  | 'h' => some (false, across)
  | 'H' => some (true, across)
  | 'v' => some (false, down)
  | 'V' => some (true, down)
  | 'N' => some (true, [.range '\n' '\n'])
  | _ => none

/-- The items of all characters that are in none of some items. -/
def complement (items : List SetItem) : List SetItem :=
  ((List.range 256).map Char.ofNat).filterMap fun c =>
    if items.any (·.contains c) then none else some (.range c c)

/-- The class of a property of characters. -/
def propertyOf? (name : Bytes) : Option (List SetItem) :=
  match String.ofList name with
  | "L" | "Letter" | "L&" | "Latin" => some [.named "alpha".toList]
  | "Lu" => some [.named "upper".toList]
  | "Ll" => some [.named "lower".toList]
  | "N" | "Nd" => some [.named "digit".toList]
  | "P" => some ("!\"#%&'()*,-./:;?@[\\]_\x7b\x7d".toList.map fun c => .range c c)
  | "S" => some ("$+<=>^\x60|~".toList.map fun c => .range c c)
  | "Z" | "Zs" => some [.range ' ' ' ']
  | "Xan" => some [.named "alnum".toList]
  | "Xsp" | "Xps" => some [.named "space".toList]
  | "Xwd" => some wordItems
  | "Any" => some [.range '\x00' '\xff']
  | _ => none

/-- The name of a property behind `\p`, and what follows. -/
def property? (s : Bytes) : Option (Bytes × Bytes) :=
  match s with
  | '\x7b' :: r =>
    let name := r.takeWhile (· != '}')
    some (name, r.drop (name.length + 1))
  | c :: r => some ([c], r)
  | [] => none

/-- The number that digits of a base write, at most so many. -/
def numeral (base most : Nat) (s : Bytes) : Nat × Bytes :=
  let ds := (s.take most).takeWhile fun c => (Text.hexValue c).any (· < base)
  (ds.foldl (fun n c => n * base + (Text.hexValue c).getD 0) 0, s.drop ds.length)

/-- The character that an escape writes, from behind the backslash, and what follows. -/
def escaped? (s : Bytes) : Option (Char × Bytes) :=
  match s with
  | 'n' :: r => some ('\n', r)
  | 't' :: r => some ('\t', r)
  | 'r' :: r => some ('\r', r)
  | 'f' :: r => some ('\x0c', r)
  | 'a' :: r => some ('\x07', r)
  | 'e' :: r => some ('\x1b', r)
  | 'x' :: '\x7b' :: r =>
    let (n, r) := numeral 16 8 r
    some (Char.ofNat (n % 256), r.drop 1)
  | 'x' :: r =>
    let (n, r) := numeral 16 2 r
    some (Char.ofNat n, r)
  | 'o' :: '\x7b' :: r =>
    let (n, r) := numeral 8 8 r
    some (Char.ofNat (n % 256), r.drop 1)
  | '0' :: r =>
    let (n, r) := numeral 8 2 r
    some (Char.ofNat n, r)
  | 'c' :: c :: r => some (Char.ofNat (c.toUpper.toNat ^^^ 64), r)
  | _ => none

/-! ### Sets -/

/-- A member of a set, and what follows it. -/
def member (s : Bytes) : Except Fault (List SetItem × Bytes) :=
  match s with
  | [] => .error .openSet
  | '[' :: ':' :: r =>
    let body := r.takeWhile fun c => c.isAlpha || c == '^'
    match r.drop body.length with
    | ':' :: ']' :: r =>
      let negated := body.head? = some '^'
      let name := if negated then body.drop 1 else body
      if name = "word".toList then
        .ok (if negated then complement wordItems else wordItems, r)
      else if (List.range 256).any fun n => SetItem.inClass name (Char.ofNat n) then
        .ok (if negated then complement [.named name] else [.named name], r)
      else .error .unknownClass
    | _ => .ok ([.range '[' '['], ':' :: r)
  | '\\' :: 'b' :: r => .ok ([.range '\x08' '\x08'], r)
  | '\\' :: c :: r =>
    match classOf? c with
    | some (negated, items) => .ok (if negated then complement items else items, r)
    | none =>
      if c = 'p' || c = 'P' then
        match property? r with
        | some (name, r) =>
          match propertyOf? name with
          | some items => .ok (if c = 'P' then complement items else items, r)
          | none => .error .unknownProperty
        | none => .error .lastBackslash
      else
        match escaped? (c :: r) with
        | some (d, r) => .ok ([.range d d], r)
        | none =>
          if '1' ≤ c && c ≤ '7' then
            let (n, r) := numeral 8 3 (c :: r)
            .ok ([.range (Char.ofNat (n % 256)) (Char.ofNat (n % 256))], r)
          else .ok ([.range c c], r)
  | c :: r => .ok ([.range c c], r)

/-- The members of a set up to its closing bracket, which may not be the first of them, and what
follows. -/
def members (first : Bool) : Nat → Bytes → Except Fault (List SetItem × Bytes)
  | 0, _ => .error .openSet
  | fuel + 1, s =>
    match s, first with
    | [], _ => .error .openSet
    | ']' :: r, false => .ok ([], r)
    | s, _ => do
      let (low, r) ← member s
      let (items, r) ←
        match low, r with
        | [.range a _], '-' :: c :: r' =>
          if c = ']' then pure (low, r)
          else
            match ← member (c :: r') with
            | ([.range b _], after) =>
              if a.toNat ≤ b.toNat then pure ([SetItem.range a b], after)
              else throw .wrongRange
            | (more, after) => pure (low ++ .range '-' '-' :: more, after)
        | low, r => pure (low, r)
      let (more, r) ← members false fuel r
      return (items ++ more, r)

def readSet : Read Regex := do
  let s ← rest
  let (negated, body) := match s with
    | '^' :: r => (true, r)
    | r => (false, r)
  let (items, r) ← members true (body.length + 1) body
  setRest r
  return .set negated items

/-! ### Repetitions -/

/-- The greatest number of rounds that may be written. -/
def mostRounds : Nat := 65535

/-- The rounds that braces tell, from behind the opening one, and what follows. -/
def braces? (s : Bytes) : Option (Nat × Option Nat × Bytes) :=
  let low := s.takeWhile Char.isDigit
  let least := Text.ofDigits 10 low
  if low.isEmpty then none
  else
    match s.drop low.length with
    | '}' :: r => some (least, some least, r)
    | ',' :: r =>
      let high := r.takeWhile Char.isDigit
      match r.drop high.length with
      | '}' :: r =>
        some (least, if high.isEmpty then none else some (Text.ofDigits 10 high), r)
      | _ => none
    | _ => none

def repetition? (s : Bytes) : Option (Nat × Option Nat × Bytes) :=
  match s with
  | '*' :: r => some (0, none, r)
  | '+' :: r => some (1, none, r)
  | '?' :: r => some (0, some 1, r)
  | '\x7b' :: r => braces? r
  | _ => none

/-- The text without the blanks and comments at its front. -/
def withoutGap : Nat → Bytes → Bytes
  | 0, s => s
  | fuel + 1, s =>
    match s with
    | '#' :: r => withoutGap fuel ((r.dropWhile (· != '\n')).drop 1)
    | c :: r => if SetItem.inClass "space".toList c then withoutGap fuel r else c :: r
    | [] => []

/-- Pass over blanks and comments if they mean nothing. -/
def skipGap : Read Unit := do
  let st ← get
  if st.settings.spaced then setRest (withoutGap (st.rest.length + 1) st.rest)

/-! ### Expressions -/

/-- The settings with letters turned on or off. -/
def switched (on : Bool) (letters : Bytes) (s : Settings) : Settings :=
  letters.foldl (fun s c =>
    match c with
    | 'i' => { s with ignoreCase := on }
    | 'm' => { s with multiline := on }
    | 's' => { s with dotAll := on }
    | 'x' => { s with spaced := on }
    | _ => s) s

def isSettingLetter (c : Char) : Bool := "imsxnUJa".toList.contains c

/-- A name up to a sign, and what follows. -/
def nameUpTo (close : Char) (s : Bytes) : Except Fault (Bytes × Bytes) :=
  let name := s.takeWhile isNameChar
  match s.drop name.length with
  | c :: r => if c = close && !name.isEmpty then .ok (name, r) else .error .wrongName
  | [] => .error .wrongName

def referTo (n : Nat) : Read Regex := do
  modify fun st => { st with referred := max n st.referred }
  return .back n

def referToName (name : Bytes) : Read Regex := do
  match (← get).names.lookup name with
  | some n => return .back n
  | none => fail .unknownGroup

/-- A reference behind `\g`: a number, perhaps counted back, or a name in braces. -/
def readReference : Read Regex := do
  match ← rest with
  | '\x7b' :: r =>
    let body := r.takeWhile (· != '}')
    setRest (r.drop (body.length + 1))
    match Bytes.toInt? body with
    | some n =>
      if n < 0 then referTo ((← get).groups + 1 - n.natAbs) else referTo n.natAbs
    | none => referToName body
  | s =>
    let ds := s.takeWhile Char.isDigit
    setRest (s.drop ds.length)
    referTo (Text.ofDigits 10 ds)

/-- What a backslash and what follows it mean. -/
def readEscape : Read Regex := do
  match ← rest with
  | [] => fail .lastBackslash
  | c :: r =>
    match classOf? c, escaped? (c :: r) with
    | some (negated, items), _ =>
      setRest r
      return .set negated items
    | none, some (d, r) =>
      setRest r
      return .char d
    | none, none =>
      setRest r
      match c with
      | 'A' | 'G' => return .anchor .textStart
      | 'Z' => return .anchor .lastLineEnd
      | 'z' => return .anchor .textEnd
      | 'b' => return .anchor .wordEdge
      | 'B' => return .anchor .notWordEdge
      | 'K' => return .keep
      | 'R' =>
        let single : Regex := .set false [.range '\n' '\r', .range '\x85' '\x85']
        return .atomic (.alt (.seq (.char '\r') (.char '\n')) single)
      | 'p' | 'P' =>
        match property? r with
        | none => fail .lastBackslash
        | some (name, r) =>
          setRest r
          match propertyOf? name with
          | some items => return .set (c = 'P') items
          | none => fail .unknownProperty
      | 'g' => readReference
      | 'k' =>
        match r with
        | '\x7b' :: r => named '}' r
        | '<' :: r => named '>' r
        | '\'' :: r => named '\'' r
        | _ => fail .wrongName
      | 'E' => return .empty
      | 'Q' =>
        let text := (quoted r)
        setRest (r.drop (text.length + 2))
        return literally text
      | c =>
        if c.isDigit then
          let ds := (c :: r).takeWhile Char.isDigit
          setRest ((c :: r).drop ds.length)
          referTo (Text.ofDigits 10 ds)
        else return .char c
where
  named (close : Char) (r : Bytes) : Read Regex := do
    let (name, r) ← nameUpTo close r
    setRest r
    referToName name
  /-- The text up to the end of a quotation. -/
  quoted : Bytes → Bytes
    | '\\' :: 'E' :: _ => []
    | c :: r => c :: quoted r
    | [] => []

/-- Number a group that begins, and give it a name if it has one. -/
def newGroup (name : Option Bytes) : Read Nat := do
  let st ← get
  let n := st.groups + 1
  match name with
  | none => modify fun st => { st with groups := n }
  | some x =>
    if (st.names.lookup x).isSome then fail .repeatedName
    modify fun st => { st with groups := n, names := st.names ++ [(x, n)] }
  return n

mutual

/-- Alternatives. Where `resets`, the groups of each are numbered from the same number on. -/
def readAlternatives (resets : Option Nat) : Nat → Read Regex
  | 0 => fail .tooGreat
  | fuel + 1 => do
    if let some n := resets then modify fun st => { st with groups := n }
    let first ← readBranch fuel
    match ← rest with
    | '|' :: r =>
      let most := (← get).groups
      setRest r
      let others ← readAlternatives resets fuel
      modify fun st => { st with groups := max most st.groups }
      return .alt first others
    | _ => return first

/-- Pieces one after the other. -/
def readBranch : Nat → Read Regex
  | 0 => fail .tooGreat
  | fuel + 1 => do
    skipGap
    match ← rest with
    | [] | '|' :: _ | ')' :: _ => return .empty
    | _ =>
      let atom ← readAtom fuel
      let piece ← match atom with
        | some e => readRepetition e
        | none => pure .empty
      return .seq piece (← readBranch fuel)

/-- An expression with the repetition behind it. -/
def readRepetition (e : Regex) : Read Regex := do
  skipGap
  match repetition? (← rest) with
  | none => return e
  | some (least, most, r) =>
    if most.any (· < least) then fail .disorder
    if mostRounds < most.getD least then fail .tooGreat
    match r with
    | '?' :: r =>
      setRest r
      return .repeat least most .fewest e
    | '+' :: r =>
      setRest r
      return .repeat least most .fixed e
    | r =>
      setRest r
      return .repeat least most .most e

/-- What stands in brackets with its own settings, up to the closing bracket. -/
def readInside (resets : Option Nat) : Nat → Read Regex
  | 0 => fail .tooGreat
  | fuel + 1 => do
    let settings := (← get).settings
    let e ← readAlternatives resets fuel
    modify fun st => { st with settings := settings }
    match ← rest with
    | ')' :: r =>
      setRest r
      return e
    | _ => fail .openGroup

/-- What begins with a bracket and a question mark; no expression if it is only settings. -/
def readSpecial : Nat → Bytes → Read (Option Regex)
  | 0, _ => fail .tooGreat
  | fuel + 1, s => do
    let group (name : Option Bytes) : Read (Option Regex) := do
      let n ← newGroup name
      return some (.group n (← readInside none fuel))
    match s with
    | ':' :: r =>
      setRest r
      return some (← readInside none fuel)
    | '|' :: r =>
      setRest r
      return some (← readInside (some (← get).groups) fuel)
    | '>' :: r =>
      setRest r
      return some (.atomic (← readInside none fuel))
    | '=' :: r =>
      setRest r
      return some (.ahead false (← readInside none fuel))
    | '!' :: r =>
      setRest r
      return some (.ahead true (← readInside none fuel))
    | '<' :: c :: r =>
      if c = '=' || c = '!' then
        setRest r
        let e ← readInside none fuel
        match e.lengths? with
        | some ns => return some (.behind (c = '!') ns e)
        | none => fail .varyingLength
      else
        let (name, r) ← nameUpTo '>' (c :: r)
        setRest r
        group (some name)
    | 'P' :: '<' :: r =>
      let (name, r) ← nameUpTo '>' r
      setRest r
      group (some name)
    | '\'' :: r =>
      let (name, r) ← nameUpTo '\'' r
      setRest r
      group (some name)
    | 'P' :: '=' :: r =>
      let (name, r) ← nameUpTo ')' r
      setRest r
      return some (← referToName name)
    | '#' :: r =>
      let text := r.takeWhile (· != ')')
      if (r.drop text.length).isEmpty then fail .openGroup
      setRest (r.drop (text.length + 1))
      return none
    | s =>
      let on := s.takeWhile isSettingLetter
      let (off, r) := match s.drop on.length with
        | '-' :: r => (r.takeWhile isSettingLetter, r.dropWhile isSettingLetter)
        | r => ([], r)
      let settings := (← get).settings
      let new := switched false off (switched true on settings)
      match r with
      | ')' :: r =>
        setRest r
        modify fun st => { st with settings := new }
        return none
      | ':' :: r =>
        setRest r
        modify fun st => { st with settings := new }
        let e ← readInside none fuel
        modify fun st => { st with settings := settings }
        return some (.inCase new.ignoreCase e)
      | [] => fail .openGroup
      | _ => fail .unknownSign

/-- A single expression, or settings alone. -/
def readAtom : Nat → Read (Option Regex)
  | 0 => fail .tooGreat
  | fuel + 1 => do
    let st ← get
    match st.rest with
    | [] => return none
    | '.' :: r =>
      setRest r
      return some (if st.settings.dotAll then .any else .set true [.range '\n' '\n'])
    | '^' :: r =>
      setRest r
      return some (.anchor (if st.settings.multiline then .lineStart else .textStart))
    | '$' :: r =>
      setRest r
      return some (.anchor (if st.settings.multiline then .lineEnd else .lastLineEnd))
    | '[' :: r =>
      setRest r
      return some (.inCase st.settings.ignoreCase (← readSet))
    | '(' :: '?' :: r => readSpecial fuel r
    | '(' :: r =>
      setRest r
      let n ← newGroup none
      return some (.group n (← readInside none fuel))
    | '\\' :: r =>
      setRest r
      return some (.inCase st.settings.ignoreCase (← readEscape))
    | c :: r =>
      if (repetition? (c :: r)).isSome then fail .nothingRepeated
      setRest r
      return some (.inCase st.settings.ignoreCase (.char c))

end

/-- The expression without changes of case that change nothing. -/
def simplified (same : Bool) : Regex → Regex
  | .inCase s e => if s = same then simplified same e else .inCase s (simplified s e)
  | .seq a b => .seq (simplified same a) (simplified same b)
  | .alt a b => .alt (simplified same a) (simplified same b)
  | .group n e => .group n (simplified same e)
  | .repeat least most greed e => .repeat least most greed (simplified same e)
  | .ahead negated e => .ahead negated (simplified same e)
  | .behind negated ns e => .behind negated ns (simplified same e)
  | .atomic e => .atomic (simplified same e)
  | e => e

/-- What searches for the expression that a text writes. -/
def matcher (settings : Settings) (s : Bytes) : Except Fault Matcher :=
  match (readAlternatives none (8 * s.length + 32)).run ⟨s, 0, [], settings, 0, []⟩ with
  | .error f => .error f
  | .ok (_, ⟨')' :: _, _, _, _, _, _⟩) => .error .closedGroup
  | .ok (e, st) =>
    if st.groups < st.referred then .error .unknownGroup
    else
      .ok (Matcher.ofPerl (simplified settings.ignoreCase e) st.groups st.names settings.ignoreCase)

end SvgSkeleton.Shell.Regex.Perl
