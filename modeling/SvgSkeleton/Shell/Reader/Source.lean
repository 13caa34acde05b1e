import SvgSkeleton.Shell.Script

/-!
The text of a script while it is read: what is left of it, the here-documents whose texts are still
to come, and the abbreviations that stand for other texts.
-/

namespace SvgSkeleton.Shell.Reader

/-- A here-document that has been announced. -/
structure Announced where
  id : Nat
  delimiter : Bytes
  /-- Nothing in the text is expanded. -/
  quoted : Bool
  /-- Tabs at the beginning of lines are left out. -/
  trimmed : Bool

/-- What a script is made of. -/
inductive Token where
  | endOfText
  | lineFeed
  | sign (s : String)
  | keyword (w : Bytes)
  | word (w : Word)
  /-- A channel, what is done with it, and whether tabs are left out of a here-document. -/
  | redirection (channel : Nat) (direction : Direction) (trimmed : Bool)

/-- The text of an abbreviation that is being read. -/
structure Unfolded where
  name : Bytes
  /-- How much text there is behind it. -/
  behind : Nat
  /-- The word behind it may be an abbreviation, too. -/
  goesOn : Bool

structure Source where
  rest : Bytes
  line : Nat
  announced : List Announced
  texts : List (Nat × Word)
  count : Nat
  /-- A token that has been read and put back. -/
  pushed : Option Token
  aliases : List (Bytes × Bytes)
  unfolded : List Unfolded

def Source.ofScript (script : Bytes) (count : Nat) : Source :=
  ⟨script, 1, [], [], count, none, [], []⟩

/-- Why a script cannot be read, and the line. -/
structure Fault where
  line : Nat
  reason : String
  deriving DecidableEq, Repr

abbrev Read := StateT Source (Except Fault)

def fail {α : Type} (reason : String) : Read α := fun s => .error ⟨s.line, reason⟩

/-- What has no end is too deep to read. -/
def tooDeep {α : Type} : Read α := fail "Stack overflow"

/-- The text behind the line breaks that a backslash takes away, and how many there are. -/
def joined (breaks : Nat) : Bytes → Bytes × Nat
  | '\\' :: '\n' :: r => joined (breaks + 1) r
  | s => (s, breaks)

/-- What is left of the text. -/
def ahead : Read Bytes := do
  let s ← get
  match s.rest with
  | '\\' :: '\n' :: _ =>
    let (rest, breaks) := joined 0 s.rest
    set { s with rest := rest, line := s.line + breaks }
    return rest
  | rest => return rest

/-- Pass over some characters. -/
def advance (n : Nat) : Read Unit := modify fun s =>
  { s with rest := s.rest.drop n, line := s.line + (s.rest.take n).count '\n' }

/-- Pass over the longest run of characters of a kind. -/
def takeWhile (p : Char → Bool) : Read Bytes := do
  let run := (← ahead).takeWhile p
  advance run.length
  return run

def isBlank (c : Char) : Bool := c == ' ' || c == '\t'

/-- The characters that end a word. -/
def isMeta (c : Char) : Bool :=
  isBlank c || c == '\n' || c == ';' || c == '&' || c == '|' || c == '<' || c == '>' || c == '('
    || c == ')'

/-- Pass over blanks, joined lines, and a comment. -/
def skipBlanks (fuel : Nat) : Read Unit := do
  match fuel with
  | 0 => return ()
  | fuel + 1 =>
    match ← ahead with
    | '#' :: _ =>
      let comment := (← get).rest.takeWhile (· != '\n')
      advance comment.length
    | c :: _ =>
      if isBlank c then
        let _ ← takeWhile isBlank
        skipBlanks fuel
    | [] => return ()

/-- The words that are reserved where a command may begin. -/
def reservedWords : List Bytes :=
  ["!", "case", "do", "done", "elif", "else", "esac", "fi", "for", "if", "in", "then", "until",
   "while", "\x7b", "\x7d"].map String.toList

/-- The signs, longer ones first. -/
def signs : List String := ["&&", "||", ";;", ";", "&", "|", "(", ")"]

/-- A token as complaints name it. -/
def Token.shown : Token → String
  | .endOfText => "end of file"
  | .lineFeed => "newline"
  | .sign s => "\"" ++ s ++ "\""
  | .keyword w => "\"" ++ String.ofList w ++ "\""
  | .word _ => "word"
  | .redirection .. => "redirection"

/-- Does the token end a list of commands? -/
def Token.endsList : Token → Bool
  | .endOfText => true
  | .sign s => s == ")" || s == ";;"
  | .keyword w =>
    ["do", "done", "elif", "else", "esac", "fi", "then", "\x7d"].contains (String.ofList w)
  | _ => false

def Token.isSign (sign : String) : Token → Bool
  | .sign s => s == sign
  | _ => false

def Token.isKeyword (word : String) : Token → Bool
  | .keyword w => w == word.toList
  | _ => false

/-- Complain about a token. -/
def unexpected {α : Type} (t : Token) (expecting : Option String) : Read α :=
  let tail := match expecting with
    | some e => " (expecting " ++ e ++ ")"
    | none => ""
  fail (t.shown ++ " unexpected" ++ tail)

/-- Put a token back. -/
def putBack (t : Token) : Read Unit := modify fun s => { s with pushed := some t }

/-- Read a text of its own, and go on behind it. -/
def within {α : Type} (text : Bytes) (read : Read α) : Read α := do
  let outer ← get
  set { outer with rest := text, line := 1, pushed := none, unfolded := [], announced := [] }
  let value ← read
  modify fun s => { outer with texts := s.texts, count := s.count }
  return value

end SvgSkeleton.Shell.Reader
