import SvgSkeleton.Shell.Floating
import SvgSkeleton.Shell.Utility.Awk.Pattern

/-!
How the text of a program is taken apart into tokens, each with its line.
-/

namespace SvgSkeleton.Shell.Awk

inductive Token where
  | finish
  | newline
  | symbol (s : String)
  | word (s : String)
  /-- The name of a function that is there. -/
  | builtin (s : String)
  | name (s : Bytes)
  /-- The name of a function of the program, with a parenthesis right behind it. -/
  | call (s : Bytes)
  | number (x : Floating) (text : Bytes)
  | text (s : Bytes)
  | pattern (s : Bytes)
  /-- What is no token, and what is said of it. -/
  | fault (message : Bytes)

/-- A token and its line. -/
structure Located where
  token : Token
  line : Nat

namespace Token

def words : List String :=
  ["BEGIN", "END", "function", "if", "else", "for", "while", "do", "break", "continue",
   "next", "nextfile", "exit", "return", "delete", "in", "print", "printf", "getline"]

def builtins : List String :=
  ["length", "substr", "index", "split", "sub", "gsub", "match", "sprintf", "sin", "cos", "atan2",
   "exp", "log", "sqrt", "int", "rand", "srand", "tolower", "toupper", "close", "system", "fflush",
   "mktime", "strftime", "systime"]

/-- The symbols, longer ones first. -/
def symbols : List String :=
  ["&&", "||", "==", "!=", "<=", ">=", ">>", "!~", "+=", "-=", "*=", "/=", "%=", "^=", "++", "--",
   "\x7b", "\x7d", "(", ")", "[", "]", ",", ";", "+", "-", "*", "/", "%", "^", "!", "<", ">", "~",
   "|", "?", ":", "=", "$"]

/-- How complaints show a token. -/
def shown : Token → Bytes
  | .finish => "end of file".toList
  | .newline => "end of line".toList
  | .symbol s | .word s | .builtin s => s.toList
  | .name s | .call s | .text s => s
  | .number _ s => s
  | .pattern s => '/' :: s ++ ['/']
  | .fault s => s

/-- Does a slash behind the token divide? -/
def isOperand : Token → Bool
  | .number _ _ | .text _ | .pattern _ | .name _ | .builtin _ => true
  | .symbol s => [")", "]", "$", "++", "--"].contains s
  | _ => false

/-- Do line feeds behind the token count for nothing? -/
def goesOn : Token → Bool
  | .symbol s => ["\x7b", "&&", "||", ",", ";"].contains s
  | .word s => ["do", "else"].contains s
  | .newline => true
  | _ => false

/-- The characters that letters behind a backslash mean in a text. -/
def letters : List (Char × Char) :=
  [('"', '"'), ('\\', '\\'), ('a', '\x07'), ('b', '\x08'), ('f', '\x0c'), ('n', '\n'),
   ('r', '\r'), ('t', '\t'), ('v', '\x0b')]

/-- A text with its escapes. -/
def unescaped : Nat → Bytes → Bytes
  | 0, _ => []
  | _ + 1, [] => []
  | fuel + 1, '\\' :: '\n' :: r => unescaped fuel r
  | fuel + 1, '\\' :: c :: r =>
    match letters.lookup c with
    | some d => d :: unescaped fuel r
    | none =>
      let digits := ((c :: r).take 3).takeWhile Pattern.isOctal
      let hex := (r.take 2).takeWhile fun d => (Text.hexValue d).isSome
      if (c = 'x' && !hex.isEmpty) || !digits.isEmpty then
        let (d, rest) := Pattern.escaped (c :: r)
        d :: unescaped fuel rest
      else '\\' :: c :: unescaped fuel r
  | fuel + 1, c :: r => c :: unescaped fuel r

/-- The text up to a quotation mark that closes it, and what follows; nothing if none does. -/
def upToQuote : Bytes → Bytes → Option (Bytes × Bytes)
  | _, [] => none
  | taken, '"' :: r => some (taken.reverse, r)
  | taken, '\\' :: c :: r => upToQuote (c :: '\\' :: taken) r
  | taken, c :: r => if c = '\n' then none else upToQuote (c :: taken) r

/-- The expression up to a slash that closes it, and what follows; nothing if none does. The flag
says that a set is open. -/
def upToSlash : Bool → Bytes → Bytes → Option (Bytes × Bytes)
  | _, _, [] => none
  | inSet, taken, '\\' :: '/' :: r => upToSlash inSet ('/' :: taken) r
  | inSet, taken, '\\' :: c :: r => upToSlash inSet (c :: '\\' :: taken) r
  | true, taken, ']' :: r => upToSlash false (']' :: taken) r
  | true, taken, c :: r => if c = '\n' then none else upToSlash true (c :: taken) r
  | false, taken, '/' :: r => some (taken.reverse, r)
  | false, taken, '[' :: '^' :: ']' :: r => upToSlash true (']' :: '^' :: '[' :: taken) r
  | false, taken, '[' :: ']' :: r => upToSlash true (']' :: '[' :: taken) r
  | false, taken, '[' :: r => upToSlash true ('[' :: taken) r
  | false, taken, c :: r => if c = '\n' then none else upToSlash false (c :: taken) r

/-- How much of what has no end is shown. -/
def shownLength : Nat := 10

/-- The length of a number at the front of a text. -/
def numberLength (s : Bytes) : Nat :=
  match Floating.pointed? Char.isDigit s with
  | none => 0
  | some (_, _, rest) =>
    let (_, rest) := Floating.exponent 'e' rest
    s.length - rest.length

/-- What follows blanks, comments, and line feeds behind backslashes; and how many lines that is. -/
def skipBlanks : Nat → Bytes → Nat × Bytes
  | 0, s => (0, s)
  | fuel + 1, s =>
    match s with
    | ['\\'] => (0, [])
    | '\\' :: '\n' :: r => let (n, r) := skipBlanks fuel r; (n + 1, r)
    | '\\' :: '\r' :: '\n' :: r => let (n, r) := skipBlanks fuel r; (n + 1, r)
    | '#' :: r => skipBlanks fuel (r.dropWhile (· != '\n'))
    | c :: r =>
      if c = ' ' || c = '\t' || c = '\r' || c = '\x0c' || c = '\x0b' then skipBlanks fuel r
      else (0, s)
    | [] => (0, [])

/-- The token at the front of a text, and what follows. The flag says that a slash divides. -/
def first (divides : Bool) (line : Nat) (s : Bytes) : Token × Bytes :=
  let lineText : Bytes := "line ".toList ++ Bytes.ofNat line ++ ": ".toList
  match s with
  | [] => (.finish, [])
  | '\n' :: r => (.newline, r)
  | '"' :: r =>
    match upToQuote [] r with
    | some (body, rest) => (.text (unescaped (body.length + 1) body), rest)
    | none =>
      (.fault (lineText ++ "runaway string constant \"".toList
        ++ (r.takeWhile (· != '\n')).take shownLength ++ " ...".toList), [])
  | '/' :: r =>
    if divides then
      match r with
      | '=' :: r => (.symbol "/=", r)
      | r => (.symbol "/", r)
    else
      match upToSlash false [] r with
      | some (body, rest) => (.pattern body, rest)
      | none =>
        (.fault (lineText ++ "runaway regular expression /".toList
          ++ (r.takeWhile (· != '\n')).take shownLength ++ " ...".toList), [])
  | c :: r =>
    let n := numberLength s
    if n != 0 then
      let text := s.take n
      (.number (Floating.read .double text).value text, s.drop n)
    else if isNameStart c then
      let body := s.takeWhile isNameChar
      let rest := s.drop body.length
      let word := String.ofList body
      if words.contains word then (.word word, rest)
      else if builtins.contains word then (.builtin word, rest)
      else if rest.head? = some '(' then (.call body, rest)
      else (.name body, rest)
    else
      match symbols.find? fun t => t.toList.isPrefixOf s with
      | some t => (.symbol t, s.drop t.length)
      | none =>
        (.fault (Bytes.ofNat line ++ ": unexpected character '".toList ++ [c, '\'']), r)

/-- All tokens of a text. A newline stands at the end. -/
def tokens : Nat → Token → Nat → Bytes → List Located
  | 0, _, line, _ => [⟨.finish, line⟩]
  | fuel + 1, before, line, s =>
    let (skipped, s) := skipBlanks s.length s
    let line := line + skipped
    let (t, rest) := first before.isOperand line s
    let inside := (s.take (s.length - rest.length)).count '\n'
    match t with
    | .finish =>
      let last : List Located := [⟨.finish, line + 1⟩]
      if before.goesOn then last else ⟨.newline, line⟩ :: last
    | .fault _ => [⟨t, line⟩]
    | .newline =>
      let others := tokens fuel (if before.goesOn then before else .newline) (line + 1) rest
      if before.goesOn then others else ⟨.newline, line⟩ :: others
    | t => ⟨t, line⟩ :: tokens fuel t (line + inside) rest

/-- The tokens of a program. -/
def ofText (s : Bytes) : List Located := tokens (2 * s.length + 8) .newline 1 s

end Token
end SvgSkeleton.Shell.Awk
