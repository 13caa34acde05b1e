import SvgSkeleton.Shell.Utility.Interpreter.Syntax
import SvgSkeleton.Text.Character

/-!
How a script is taken apart into tokens. Where a line is set in more than the one before it a block
begins, and it ends where a line is not; within brackets lines do not count.
-/

namespace SvgSkeleton.Shell.Interpreter

inductive Token where
  | finish
  | newline
  | indent
  | dedent
  | name (s : String)
  | word (s : String)
  | int (n : Nat)
  | float (x : Floating)
  | text (s : String)
  | bytes (s : Bytes)
  /-- A text with values in it, as it is written. -/
  | template (s : List Char) (raw : Bool)
  | symbol (s : String)
  | fault (message : String)

/-- A token and its line, how much of the script is left where it begins, and its length. -/
structure Word where
  token : Token
  line : Nat
  left : Nat
  size : Nat

namespace Token

def words : List String :=
  ["False", "None", "True", "and", "as", "assert", "break", "continue", "def", "del", "elif",
   "else", "except", "finally", "for", "from", "global", "if", "import", "in", "is", "lambda",
   "nonlocal", "not", "or", "pass", "raise", "return", "try", "while", "with"]

/-- The symbols, longer ones first. -/
def symbols : List String :=
  ["**=", "//=", ">>=", "<<=", "...", "->", ":=", "+=", "-=", "*=", "/=", "%=", "&=", "|=", "^=",
   "**", "//", "<<", ">>", "<=", ">=", "==", "!=", "(", ")", "[", "]", "\x7b", "\x7d", ",", ":",
   ".", ";", "+", "-", "*", "/", "%", "&", "|", "^", "~", "<", ">", "=", "@"]

def isNameStart (c : Char) : Bool := c.isAlpha || c == '_' || 128 ≤ c.toNat

def isNameChar (c : Char) : Bool := isNameStart c || c.isDigit

/-- The characters that letters behind a backslash mean. -/
def letters : List (Char × Char) :=
  [('\\', '\\'), ('\'', '\''), ('"', '"'), ('a', '\x07'), ('b', '\x08'), ('f', '\x0c'),
   ('n', '\n'), ('r', '\r'), ('t', '\t'), ('v', '\x0b')]

/-- The number that hexadecimal digits write. -/
def hexNumber (s : List Char) : Nat :=
  s.foldl (fun n c => n * 16 + (Text.hexValue c).getD 0) 0

/-- A text with its escapes; in bytes there are none for greater characters. -/
def unescaped (wide : Bool) : Nat → List Char → List Char
  | 0, _ => []
  | _ + 1, [] => []
  | fuel + 1, '\\' :: '\n' :: r => unescaped wide fuel r
  | fuel + 1, '\\' :: c :: r =>
    match letters.lookup c with
    | some d => d :: unescaped wide fuel r
    | none =>
      let octal := ((c :: r).take 3).takeWhile fun d => '0' ≤ d && d ≤ '7'
      let count :=
        if c = 'x' then 2 else if wide && c = 'u' then 4 else if wide && c = 'U' then 8 else 0
      let digits := (r.take count).takeWhile fun d => (Text.hexValue d).isSome
      if !octal.isEmpty then
        Char.ofNat (Text.ofDigits 8 octal) :: unescaped wide fuel ((c :: r).drop octal.length)
      else if 0 < count && digits.length = count then
        Char.ofNat (hexNumber digits) :: unescaped wide fuel (r.drop count)
      else '\\' :: c :: unescaped wide fuel r
  | fuel + 1, c :: r => c :: unescaped wide fuel r

/-- The text up to a mark that closes it, and what follows; nothing if none does. -/
def upTo (mark : List Char) : Nat → List Char → Option (List Char × List Char)
  | 0, _ => none
  | fuel + 1, s =>
    if mark.isPrefixOf s then some ([], s.drop mark.length)
    else
      match s with
      | [] => none
      | '\\' :: c :: r => (upTo mark fuel r).map fun (a, b) => ('\\' :: c :: a, b)
      | c :: r =>
        if c = '\n' && mark.length = 1 then none
        else (upTo mark fuel r).map fun (a, b) => (c :: a, b)

/-- The letters in front of a text, and the mark that opens it. -/
def opening? (s : List Char) : Option (List Char × List Char × List Char) :=
  let letters := (s.take 2).takeWhile fun c => "rRbBfFuU".toList.contains c
  let rest := s.drop letters.length
  match rest with
  | c :: d :: e :: r =>
    if (c = '"' || c = '\'') && d = c && e = c then some (letters.map Char.toLower, [c, c, c], r)
    else if c = '"' || c = '\'' then some (letters.map Char.toLower, [c], d :: e :: r)
    else none
  | c :: r => if c = '"' || c = '\'' then some (letters.map Char.toLower, [c], r) else none
  | [] => none

/-- A number at the front of a text, and what follows. -/
def number? (s : List Char) : Option (Token × List Char) :=
  let clean (s : List Char) : List Char := s.filter (· != '_')
  let digitsOf (ok : Char → Bool) (s : List Char) : List Char :=
    s.takeWhile fun c => ok c || c == '_'
  match s with
  | '0' :: x :: r =>
    let base := if x = 'x' || x = 'X' then 16 else if x = 'o' || x = 'O' then 8
      else if x = 'b' || x = 'B' then 2 else 0
    if base != 0 then
      let digits := digitsOf (fun c => (Text.hexValue c).any (· < base)) r
      some (.int ((clean digits).foldl (fun n c => n * base + (Text.hexValue c).getD 0) 0),
        r.drop digits.length)
    else decimal s
  | s => decimal s
where
  decimal (s : List Char) : Option (Token × List Char) :=
    let clean (s : List Char) : List Char := s.filter (· != '_')
    let whole := s.takeWhile fun c => c.isDigit || c == '_'
    let rest := s.drop whole.length
    let (fraction, rest) : List Char × List Char := match rest with
      | '.' :: r =>
        let f := if r.head?.all Char.isDigit then r.takeWhile fun c => c.isDigit || c == '_' else []
        if whole.isEmpty && f.isEmpty then ([], rest) else ('.' :: f, r.drop f.length)
      | r => ([], r)
    if whole.isEmpty && fraction.isEmpty then none
    else if !(whole.head?.all Char.isDigit) then none
    else
      let (power, rest) : List Char × List Char := match rest with
        | e :: r =>
          if e = 'e' || e = 'E' then
            let sign := r.takeWhile fun c => c == '+' || c == '-'
            let digits := (r.drop sign.length).takeWhile Char.isDigit
            if sign.length ≤ 1 && !digits.isEmpty then
              ('e' :: sign ++ digits, r.drop (sign.length + digits.length))
            else ([], rest)
          else ([], rest)
        | [] => ([], [])
      if fraction.isEmpty && power.isEmpty then some (.int (Text.ofDigits 10 (clean whole)), rest)
      else
        some (.float (Floating.read .double (clean (whole ++ fraction ++ power))).value, rest)

/-- What is said of texts that do not end. -/
def openShort : String := "unterminated string literal"

def openLong : String := "unterminated triple-quoted string literal"

/-- A fault with the line in which it is found out. -/
def found (t : Token) (line last : Nat) : Token :=
  match t with
  | .fault message =>
    if message = openShort then
      .fault (message ++ " (detected at line " ++ toString line ++ ")")
    else if message = openLong then
      .fault (message ++ " (detected at line " ++ toString last ++ ")")
    else t
  | t => t

/-- The token at the front of a text, and what follows. -/
def first (s : List Char) : Token × List Char :=
  match opening? s with
  | some (letters, mark, body) =>
    match upTo mark (body.length + 1) body with
    | none =>
      (.fault (if mark.length = 3 then openLong else openShort), [])
    | some (inner, rest) =>
      let raw := letters.contains 'r'
      if letters.contains 'f' then (.template inner raw, rest)
      else if letters.contains 'b' then
        (.bytes (if raw then inner else unescaped false (inner.length + 1) inner), rest)
      else
        (.text (String.ofList (if raw then inner else unescaped true (inner.length + 1) inner)),
          rest)
  | none =>
    match number? s with
    | some found => found
    | none =>
      match s with
      | [] => (.finish, [])
      | c :: r =>
        if isNameStart c then
          let body := s.takeWhile isNameChar
          let word := String.ofList body
          (if words.contains word then .word word else .name word, s.drop body.length)
        else
          match symbols.find? fun t => t.toList.isPrefixOf s with
          | some t => (.symbol t, s.drop t.length)
          | none => (.fault "invalid syntax", r)

/-- The first letter behind a backslash that means nothing. -/
def strayEscape? (known : Char → Bool) : List Char → Option Char
  | '\\' :: c :: s => if known c then strayEscape? known s else some c
  | _ :: s => strayEscape? known s
  | [] => none

/-- The letter behind a backslash that means nothing in a text that is written in a script. -/
def strayIn? (w : Word) (script : List Char) : Option Char :=
  match w.token with
  | .text _ | .bytes _ | .template _ _ =>
    match opening? ((script.drop (script.length - w.left)).take w.size) with
    | some (letters', _, body) =>
      let known (c : Char) : Bool :=
        (letters.lookup c).isSome || c == '\n' || c == 'x' || ('0' ≤ c && c ≤ '7')
          || (!letters'.contains 'b' && (c == 'u' || c == 'U' || c == 'N'))
      if letters'.contains 'r' then none else strayEscape? known body
    | none => none
  | _ => none

/-- How far a line is set in. -/
def indentation (s : List Char) : Nat :=
  (s.takeWhile fun c => c == ' ' || c == '\t').foldl
    (fun n c => if c = '\t' then (n / 8 + 1) * 8 else n + 1) 0

/-- The bracket that closes another one. -/
def closing (c : Char) : Char := if c = '(' then ')' else if c = '[' then ']' else '\x7d'

/-- A bracket, and the ones that are open behind it; the innermost one comes first. A bracket that
closes another one than it should is a fault. -/
def bracketed (w : Word) (opened : List (Char × Word)) : Word × List (Char × Word) :=
  let shown (c : Char) : String := "'" ++ String.ofList [c] ++ "'"
  match w.token with
  | .symbol s =>
    match s.toList with
    | [c] =>
      if c = '(' || c = '[' || c = '\x7b' then (w, (c, w) :: opened)
      else if c = ')' || c = ']' || c = '\x7d' then
        match opened with
        | [] => ({ w with token := .fault ("unmatched " ++ shown c) }, [])
        | (d, _) :: rest =>
          if closing d = c then (w, rest)
          else
            ({ w with token := .fault ("closing parenthesis " ++ shown c
                ++ " does not match opening parenthesis " ++ shown d) }, rest)
      else (w, opened)
    | _ => (w, opened)
  | _ => (w, opened)

/-- The tokens of a line from a place on, the line of what follows, and what follows. -/
def ofLine : Nat → List (Char × Word) → Nat → List Char → List Word × Nat × List Char
  | 0, _, line, s => ([], line, s)
  | fuel + 1, opened, line, s =>
    match s with
    | [] =>
      match opened with
      | [] => ([⟨.newline, line, 0, 1⟩], line, [])
      | (c, w) :: _ =>
        ([{ w with token := .fault ("'" ++ String.ofList [c] ++ "' was never closed") }], line, [])
    | '\n' :: r =>
      if opened.isEmpty then ([⟨.newline, line, s.length, 1⟩], line + 1, r)
      else ofLine fuel opened (line + 1) r
    | '\\' :: '\n' :: r => ofLine fuel opened (line + 1) r
    | '#' :: r => ofLine fuel opened line (r.dropWhile (· != '\n'))
    | c :: r =>
      if c = ' ' || c = '\t' || c = '\x0c' || c = '\x0d' then ofLine fuel opened line r
      else
        let (t, rest) := first s
        let size := match t with
          | .fault _ => 1
          | _ => s.length - rest.length
        let lines := (s.take (s.length - rest.length)).count '\n'
        let t := found t line (line + s.count '\n')
        let (w, opened) := bracketed ⟨t, line, s.length, size⟩ opened
        let (more, last, left) := ofLine fuel opened (line + lines) rest
        (w :: more, last, left)

/-- Does a line hold nothing? -/
def isBlank (s : List Char) : Bool :=
  match s.dropWhile fun c => c == ' ' || c == '\t' || c == '\x0c' || c == '\x0d' with
  | [] | '\n' :: _ | '#' :: _ => true
  | _ => false

/-- The tokens of all lines. The levels are those of the blocks that are open. -/
def ofLines : Nat → List Nat → Nat → List Char → List Word
  | 0, _, line, _ => [⟨.finish, line, 0, 1⟩]
  | fuel + 1, levels, line, s =>
    if s.isEmpty then levels.map (fun _ => ⟨.dedent, line, 0, 1⟩) ++ [⟨.finish, line, 0, 1⟩]
    else if isBlank s then
      let rest := s.dropWhile (· != '\n')
      ofLines fuel levels (line + 1) (rest.drop 1)
    else
      let n := indentation s
      let body := s.dropWhile fun c => c == ' ' || c == '\t'
      let mark (t : Token) : Word := ⟨t, line, body.length, 1⟩
      let kept := levels.dropWhile (n < ·)
      let closed : List Word := (levels.take (levels.length - kept.length)).map fun _ =>
        mark .dedent
      let (opened, levels) : List Word × List Nat :=
        if kept.headD 0 < n then
          if closed.isEmpty then ([mark .indent], n :: kept)
          else
            let size := (body.takeWhile (· != '\n')).length
            ([⟨.fault "unindent does not match any outer indentation level", line,
              body.length - size, 1⟩], kept)
        else ([], kept)
      let (here, line, rest) := ofLine (s.length + 1) [] line s
      closed ++ opened ++ here ++ ofLines fuel levels line rest

/-- The tokens of a script. -/
def ofText (s : List Char) : List Word := ofLines (s.length + 1) [] 1 s

end Token
end SvgSkeleton.Shell.Interpreter
