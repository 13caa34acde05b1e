import SvgSkeleton.Shell.Reader.Source

/-!
Reading words. How far a word goes and what is special in it depends on where it stands.
-/

namespace SvgSkeleton.Shell.Reader

/-- Where the parts of a word are read. -/
inductive Mode where
  | plain
  /-- The word that a here-document ends with; nothing in it is expanded. -/
  | delimiter
  | doubleQuotes
  /-- The word inside `${...}`, which may stand in double quotes. -/
  | braces (quoted : Bool)
  /-- The expression inside `$((...))`, with some parentheses open. -/
  | arithmetic (parens : Nat)
  | hereDocument
  deriving DecidableEq

namespace Mode

def quotes : Mode → Bool
  | .plain | .delimiter | .braces false => false
  | _ => true

/-- Does the mode end here? -/
def endsAt (m : Mode) (s : Bytes) : Bool :=
  match m, s with
  | _, [] => true
  | .plain, c :: _ | .delimiter, c :: _ => isMeta c
  | .doubleQuotes, c :: _ => c == '"'
  | .braces _, c :: _ => c == '}'
  | .arithmetic parens, ')' :: ')' :: _ => parens == 0
  | _, _ => false

/-- Do quotation marks quote? -/
def singleQuotes : Mode → Bool
  | .plain | .delimiter | .braces false => true
  | _ => false

def innerQuotes : Mode → Bool
  | .plain | .delimiter | .braces _ => true
  | _ => false

/-- Does a backslash take away what is special about the character behind it? -/
def escapes (m : Mode) (c : Char) : Bool :=
  let always := c == '$' || c == '\x60' || c == '\\'
  match m with
  | .plain | .delimiter | .braces false => true
  | .doubleQuotes | .arithmetic _ => always || c == '"'
  | .braces true => always || c == '"' || c == '}'
  | .hereDocument => always

/-- Does a run of plain characters stop before the character? -/
def stopsRun (m : Mode) (c : Char) : Bool :=
  c == '\\' || c == '$' || c == '\x60' ||
    match m with
    | .plain | .delimiter => isMeta c || c == '"' || c == '\''
    | .doubleQuotes => c == '"'
    | .braces quoted => c == '}' || c == '"' || (c == '\'' && !quoted)
    | .arithmetic _ => c == '(' || c == ')'
    | .hereDocument => false

end Mode

def unterminated : String := "Unterminated quoted string"

/-- The text up to a backquote, and what is behind it. A backslash before a backquote, a dollar
sign or a backslash is taken away, in double quotes also before a double quote. -/
def backquoted (quoted : Bool) (read : Bytes) : Bytes → Option (Bytes × Bytes)
  | [] => none
  | '\x60' :: r => some (read.reverse, r)
  | '\\' :: c :: r =>
    if c == '\x60' || c == '$' || c == '\\' || (quoted && c == '"') then
      backquoted quoted (c :: read) r
    else backquoted quoted (c :: '\\' :: read) r
  | c :: r => backquoted quoted (c :: read) r

/-- The parameters whose names are single characters. -/
def isSpecial (c : Char) : Bool :=
  c == '@' || c == '*' || c == '#' || c == '?' || c == '-' || c == '$' || c == '!'

/-- The name of a parameter at the front of a text. -/
def parameterName? (s : Bytes) : Option Bytes :=
  match s with
  | [] => none
  | c :: _ =>
    if isNameStart c then some (s.takeWhile isNameChar)
    else if c.isDigit then some (s.takeWhile Char.isDigit)
    else if isSpecial c then some [c]
    else none

/-- What stands behind the name in `${name...}` before the word. -/
inductive Operation where
  | fallback (kind : Fallback) (colon : Bool)
  | trim (suffix longest : Bool)

def operation? (s : Bytes) : Option (Operation × Nat) :=
  match s with
  | ':' :: '-' :: _ => some (.fallback .use true, 2)
  | ':' :: '=' :: _ => some (.fallback .assign true, 2)
  | ':' :: '+' :: _ => some (.fallback .instead true, 2)
  | ':' :: '?' :: _ => some (.fallback .fail true, 2)
  | '-' :: _ => some (.fallback .use false, 1)
  | '=' :: _ => some (.fallback .assign false, 1)
  | '+' :: _ => some (.fallback .instead false, 1)
  | '?' :: _ => some (.fallback .fail false, 1)
  | '%' :: '%' :: _ => some (.trim true true, 2)
  | '%' :: _ => some (.trim true false, 1)
  | '#' :: '#' :: _ => some (.trim false true, 2)
  | '#' :: _ => some (.trim false false, 1)
  | _ => none

/-- Pass over characters that belong to nothing; their lines do not count. -/
def passOver (n : Nat) : Read Unit := modify fun s => { s with rest := s.rest.drop n }

/-- What a reader of words reads with: the reader of the commands inside `$(...)`. -/
abbrev ListReader := Read Command

mutual

/-- The parts of a word up to where the mode ends; the end itself is not passed over. -/
def parts (list : ListReader) : Nat → Mode → Read Word
  | 0, _ => tooDeep
  | fuel + 1, mode => do
    let rest ← ahead
    if mode.endsAt rest then return []
    let (new, mode) ← part list fuel mode rest
    return new ++ (← parts list fuel mode)

/-- The next part or parts, and the mode behind them. -/
def part (list : ListReader) : Nat → Mode → Bytes → Read (Word × Mode)
  | 0, _, _ => tooDeep
  | fuel + 1, mode, rest => do
    let stay (w : Word) : Read (Word × Mode) := return (w, mode)
    match rest with
    | '\'' :: r =>
      if mode.singleQuotes then
        let inner := r.takeWhile (· != '\'')
        if inner.length = r.length then
          advance rest.length
          fail unterminated
        advance (inner.length + 2)
        stay [.text true inner]
      else
        advance 1
        stay [.text mode.quotes ['\'']]
    | '"' :: _ =>
      if mode.innerQuotes then
        advance 1
        let inner ← parts list fuel .doubleQuotes
        if (← ahead).isEmpty then fail unterminated
        advance 1
        stay (if inner.isEmpty then [.text true []] else inner.map Part.quote)
      else
        advance 1
        stay [.text mode.quotes ['"']]
    | '\\' :: [] =>
      advance 1
      stay [.text mode.quotes ['\\']]
    | '\\' :: c :: _ =>
      if mode.escapes c then
        advance 2
        stay [.text true [c]]
      else
        advance 1
        stay [.text mode.quotes ['\\']]
    | '$' :: r =>
      advance 1
      if mode = .delimiter then stay [.text false ['$']]
      else stay ((← dollar list fuel mode r).map fun p => if mode.quotes then p.quote else p)
    | '\x60' :: r =>
      if mode = .delimiter then
        advance 1
        stay [.text true ['\x60']]
      else
        match backquoted mode.quotes [] r with
        | none =>
          advance rest.length
          fail "EOF in backquote substitution"
        | some (inner, after) =>
          advance (rest.length - after.length)
          stay [.output mode.quotes (← within inner list)]
    | '(' :: _ =>
      advance 1
      return ([.text mode.quotes ['(']], match mode with
        | .arithmetic parens => .arithmetic (parens + 1)
        | m => m)
    | ')' :: _ =>
      advance 1
      return ([.text mode.quotes [')']], match mode with
        | .arithmetic parens => .arithmetic (parens - 1)
        | m => m)
    | _ =>
      let run ← takeWhile (!mode.stopsRun ·)
      if run.isEmpty then
        advance 1
        stay [.text mode.quotes (rest.take 1)]
      else stay [.text mode.quotes run]

/-- What follows a dollar sign. -/
def dollar (list : ListReader) : Nat → Mode → Bytes → Read Word
  | 0, _, _ => tooDeep
  | fuel + 1, mode, rest => do
    match rest with
    | '(' :: '(' :: _ =>
      advance 2
      let expr ← parts list fuel (.arithmetic 0)
      if (← ahead).isEmpty then fail "Missing '))'"
      advance 2
      return [.arithmetic false expr]
    | '(' :: _ =>
      advance 1
      let announced := (← get).announced
      modify fun s => { s with announced := [] }
      let body ← list
      let t := (← get).pushed.getD .endOfText
      if !t.isSign ")" then unexpected t (some "\")\"")
      modify fun s => { s with pushed := none, announced := announced }
      return [.output false body]
    | '\x7b' :: r =>
      advance 1
      return [← braced list fuel mode.quotes r]
    | c :: _ =>
      if c.isDigit || isSpecial c then
        advance 1
        return [.parameter false [c]]
      else if isNameStart c then
        let name ← takeWhile isNameChar
        return [.parameter false name]
      else return [.text mode.quotes ['$']]
    | [] => return [.text mode.quotes ['$']]

/-- What stands between braces. -/
def braced (list : ListReader) : Nat → Bool → Bytes → Read Part
  | 0, _, _ => tooDeep
  | fuel + 1, quoted, rest => do
    let closed (p : Part) : Read Part := do
      if (← ahead).isEmpty then fail "Missing '\x7d'"
      advance 1
      return p
    let ofLength : Option Bytes := match rest with
      | '#' :: r => if r.head? = some '}' then none else
          (parameterName? r).filter fun n => (r.drop n.length).head? = some '}'
      | _ => none
    match ofLength, parameterName? rest with
    | some name, _ =>
      advance (name.length + 1)
      closed (.length false name)
    | none, none =>
      let _ ← parts list fuel (.braces quoted)
      closed .badSubstitution
    | none, some name =>
      advance name.length
      match ← ahead with
      | '}' :: _ => closed (.parameter false name)
      | after =>
        match operation? after with
        | none =>
          passOver (if after.head? = some ':' then 2 else 1)
          let _ ← parts list fuel (.braces quoted)
          closed .badSubstitution
        | some (.fallback kind colon, n) =>
          advance n
          let word ← parts list fuel (.braces quoted)
          closed (.fallback false name kind colon word)
        | some (.trim suffix longest, n) =>
          advance n
          let word ← parts list fuel (.braces false)
          closed (.trim false name suffix longest word)

end

/-- The lines of a here-document up to its delimiter, and what follows them. -/
def hereLines (h : Announced) : List Bytes → List Bytes × List Bytes
  | [] => ([], [])
  | line :: rest =>
    let line := if h.trimmed then line.dropWhile (· == '\t') else line
    if Bytes.chomp line = h.delimiter then ([], rest)
    else
      let (inner, after) := hereLines h rest
      (line :: inner, after)

/-- Read the text of a here-document that begins here. -/
def hereDocument (list : ListReader) (fuel : Nat) (h : Announced) : Read Unit := do
  let rest := (← get).rest
  let (inner, after) := hereLines h rest.lines
  let text := inner.flatten
  let start := (← get).line
  let word ←
    if h.quoted then pure [.text true text]
    else do
      modify fun s => { s with rest := text }
      parts list fuel .hereDocument
  modify fun s =>
    { s with rest := after.flatten, texts := (h.id, word) :: s.texts
             line := start + (rest.count '\n' - after.flatten.count '\n') }

/-- Read the here-documents that have been announced. -/
def hereDocuments (list : ListReader) (fuel : Nat) : Read Unit := do
  let announced := (← get).announced
  modify fun s => { s with announced := [] }
  announced.reverse.forM (hereDocument list fuel)

/-- Is everything in the word plain text? -/
def plainText? (w : Word) : Option Bytes :=
  (w.mapM fun p => match p with
    | Part.text _ s => some s
    | _ => none).map List.flatten

/-- Is something in the word quoted? -/
def hasQuotes (w : Word) : Bool :=
  w.any fun p => match p with
    | Part.text quoted _ => quoted
    | _ => false

end SvgSkeleton.Shell.Reader
