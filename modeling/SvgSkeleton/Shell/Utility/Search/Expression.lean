import SvgSkeleton.Shell.Calendar.Phrase
import SvgSkeleton.Shell.Mode
import SvgSkeleton.Shell.Regex.Posix
import SvgSkeleton.Shell.Utility.Path

/-!
Conditions on files, as `find` reads them: tests and actions that are joined by words.
-/

namespace SvgSkeleton.Shell.Search

/-! ### Tests -/

/-- A number that something is to be: exactly, or more with `+`, or less with `-`. -/
structure Bound where
  sign : Option Char
  value : Int

/-- Does a number satisfy the bound? -/
def Bound.holds (b : Bound) (n : Int) : Bool :=
  match b.sign with
  | some '+' => b.value < n
  | some '-' => n < b.value
  | _ => n == b.value

/-- How permissions are to agree with some bits: be just these, have all of them, or one. -/
inductive Agreement where
  | exact
  | all
  | one
  deriving DecidableEq

/-- A piece of a format: a text, or a directive with its flags, its width and its precision. -/
inductive Piece where
  | text (s : Bytes)
  | directive (flags : Bytes) (width : Nat) (precision : Option Nat) (letter : Char)
    (detail : Char)
  /-- Nothing more is written. -/
  | stop

/-- How a command is run for what is found. -/
structure Action where
  /-- A number of its own. -/
  number : Nat
  command : List Bytes
  /-- Is it run for many paths at a time? -/
  gathers : Bool
  /-- Is it run in the folder of what is found? -/
  inFolder : Bool
  asks : Bool

/-- Where an action writes to: the output, or a file. -/
abbrev Target := Option Bytes

inductive Test where
  | always (answer : Bool)
  | name (ignoreCase : Bool) (pattern : Bytes)
  | path (ignoreCase : Bool) (pattern : Bytes)
  | linkText (ignoreCase : Bool) (pattern : Bytes)
  | expression (m : Matcher)
  | kind (letters : List Char)
  | targetKind (letters : List Char)
  | empty
  | size (b : Bound) (unit : Nat)
  /-- Changed later than a time, in milliseconds. -/
  | newer (time : Int)
  /-- Changed so many units ago, each of some milliseconds. A day that has not passed does not
  count, a minute does. -/
  | age (b : Bound) (unit : Nat) (whole : Bool)
  | permissions (how : Agreement) (bits : Nat)
  | links (b : Bound)
  | same (place : Place)
  | runs
  | prune
  | quit
  | print (ending : Char) (target : Target)
  | format (pieces : List Piece) (target : Target)
  | delete
  | run (action : Action)

/-- Does the test do something, so that paths need not be printed besides? -/
def Test.acts : Test → Bool
  | .print _ _ | .format _ _ | .delete | .run _ => true
  | _ => false

inductive Condition where
  | test (t : Test)
  | no (c : Condition)
  | both (a b : Condition)
  | either (a b : Condition)
  | second (a b : Condition)

def Condition.acts : Condition → Bool
  | .test t => t.acts
  | .no c => c.acts
  | .both a b | .either a b | .second a b => a.acts || b.acts

/-- Does a command wait for more paths in the condition? -/
def Condition.gathering : Condition → List Action
  | .test (.run a) => if a.gathers then [a] else []
  | .test _ => []
  | .no c => c.gathering
  | .both a b | .either a b | .second a b => a.gathering ++ b.gathering

/-! ### Words between tests -/

inductive Token where
  | open
  | close
  | no (word : Bytes)
  | and (word : Bytes)
  | or (word : Bytes)
  | comma
  | test (t : Test)

def fail {α : Type} (s : String) : Except Bytes α := .error s.toList

def quoted (word : Bytes) : Bytes := ['\''] ++ word ++ ['\'']

/-- A word that joins conditions where one should begin. -/
def nothingBefore {α : Type} (word : Bytes) : Except Bytes α :=
  .error ("invalid expression; you have used a binary operator ".toList ++ quoted word
    ++ " with nothing before it.".toList)

def nothingBehind {α : Type} (word : Bytes) : Except Bytes α :=
  .error ("expected an expression after ".toList ++ quoted word)

mutual

/-- Read conditions one after the other, of which the last one counts. -/
def readList (word : Bytes) : Nat → List Token → Except Bytes (Condition × List Token)
  | 0, _ => fail "expression too deep"
  | fuel + 1, tokens => do
    let (a, rest) ← readEither word fuel tokens
    readListOn fuel a rest

def readListOn : Nat → Condition → List Token → Except Bytes (Condition × List Token)
  | 0, _, _ => fail "expression too deep"
  | fuel + 1, a, tokens =>
    match tokens with
    | .comma :: rest => do
      let (b, rest) ← readEither [','] fuel rest
      readListOn fuel (.second a b) rest
    | tokens => .ok (a, tokens)

/-- Read conditions of which one is to hold. -/
def readEither (word : Bytes) : Nat → List Token → Except Bytes (Condition × List Token)
  | 0, _ => fail "expression too deep"
  | fuel + 1, tokens => do
    let (a, rest) ← readBoth word fuel tokens
    readEitherOn fuel a rest

def readEitherOn : Nat → Condition → List Token → Except Bytes (Condition × List Token)
  | 0, _, _ => fail "expression too deep"
  | fuel + 1, a, tokens =>
    match tokens with
    | .or word :: rest => do
      let (b, rest) ← readBoth word fuel rest
      readEitherOn fuel (.either a b) rest
    | tokens => .ok (a, tokens)

/-- Read conditions that are all to hold. -/
def readBoth (word : Bytes) : Nat → List Token → Except Bytes (Condition × List Token)
  | 0, _ => fail "expression too deep"
  | fuel + 1, tokens => do
    let (a, rest) ← readOne word fuel tokens
    readBothOn fuel a rest

def readBothOn : Nat → Condition → List Token → Except Bytes (Condition × List Token)
  | 0, _, _ => fail "expression too deep"
  | fuel + 1, a, tokens =>
    match tokens with
    | [] | .close :: _ | .or _ :: _ | .comma :: _ => .ok (a, tokens)
    | .and word :: rest => do
      let (b, rest) ← readOne word fuel rest
      readBothOn fuel (.both a b) rest
    | tokens => do
      let (b, rest) ← readOne [] fuel tokens
      readBothOn fuel (.both a b) rest

/-- Read a single condition, behind a word. -/
def readOne (word : Bytes) : Nat → List Token → Except Bytes (Condition × List Token)
  | 0, _ => fail "expression too deep"
  | fuel + 1, tokens =>
    match tokens with
    | [] =>
      if word = ['('] then
        fail ("invalid expression; expected to find a ')' but didn't see one. "
          ++ "Perhaps you need an extra predicate after '('")
      else nothingBehind word
    | .test t :: rest => .ok (.test t, rest)
    | .no word :: rest => do
      let (c, rest) ← readOne word fuel rest
      return (.no c, rest)
    | .open :: .close :: _ => fail "invalid expression; empty parentheses are not allowed."
    | .open :: rest => do
      let (c, rest) ← readList ['('] fuel rest
      match rest with
      | .close :: rest => return (c, rest)
      | _ => fail ("invalid expression; I was expecting to find a ')' somewhere "
          ++ "but did not see one.")
    | .close :: _ => fail "invalid expression; you have too many ')'"
    | .and word :: _ | .or word :: _ => nothingBefore word
    | .comma :: _ => nothingBefore [',']

end

/-- The condition of some tokens; without any, everything satisfies it. -/
def condition (tokens : List Token) : Except Bytes Condition :=
  if tokens.isEmpty then .ok (.test (.always true))
  else
    match readList [] (8 * tokens.length + 16) tokens with
    | .error e => .error e
    | .ok (c, []) => .ok c
    | .ok (_, .close :: _) => fail "you have too many ')'"
    | .ok (_, _) => fail "paths must precede expression"

/-! ### Formats -/

/-- The letters of directives. -/
def directives : List Char := "abcdDfFghHiklmMnpPsStuUyYGZ".toList

/-- The letters of directives that a further letter follows. -/
def dated : List Char := "ABCT".toList

/-- The character that an escape stands for. -/
def escapes : List (Char × Char) :=
  [('a', '\x07'), ('b', '\x08'), ('f', '\x0c'), ('n', '\n'), ('r', '\r'), ('t', '\t'),
   ('v', '\x0b'), ('\\', '\\')]

/-- The pieces of a format, and what is to be said about it. -/
def pieces : Nat → Bytes → List Piece × List Bytes
  | 0, _ => ([], [])
  | _ + 1, [] => ([], [])
  | fuel + 1, '\\' :: c :: r =>
    let digits := (c :: r.take 2).takeWhile fun d => '0' ≤ d && d ≤ '7'
    if !digits.isEmpty then
      let (ps, ws) := pieces fuel ((c :: r).drop digits.length)
      (.text [Char.ofNat (Text.ofDigits 8 digits % 256)] :: ps, ws)
    else if c = 'c' then ([.stop], [])
    else
      let (ps, ws) := pieces fuel r
      match escapes.lookup c with
      | some d => (.text [d] :: ps, ws)
      | none =>
        (.text ['\\', c] :: ps,
          ("warning: unrecognized escape \x60\\".toList ++ [c, '\'']) :: ws)
  | fuel + 1, '%' :: r =>
    let flags := r.takeWhile fun c => "-+ #0".toList.contains c
    let r1 := r.drop flags.length
    let width := r1.takeWhile Char.isDigit
    let r2 := r1.drop width.length
    let (precision, r3) := match r2 with
      | '.' :: t =>
        let ds := t.takeWhile Char.isDigit
        (some (Text.ofDigits 10 ds), t.drop ds.length)
      | t => (none, t)
    let here (letter detail : Char) (r : Bytes) : List Piece × List Bytes :=
      let (ps, ws) := pieces fuel r
      (.directive flags (Text.ofDigits 10 width) precision letter detail :: ps, ws)
    match r3 with
    | '%' :: r => let (ps, ws) := pieces fuel r; (.text ['%'] :: ps, ws)
    | c :: r =>
      if directives.contains c then here c ' ' r
      else
        match dated.contains c, r with
        | true, d :: r => here c d r
        | _, r =>
          let (ps, ws) := pieces fuel r
          let text := '%' :: flags ++ width ++ [c]
          (.text text :: ps,
            ("warning: unrecognized format directive \x60".toList ++ text ++ ['\'']) :: ws)
    | [] => ([], ["error: % at end of format string".toList])
  | fuel + 1, c :: r =>
    let (ps, ws) := pieces fuel r
    (.text [c] :: ps, ws)

end SvgSkeleton.Shell.Search
