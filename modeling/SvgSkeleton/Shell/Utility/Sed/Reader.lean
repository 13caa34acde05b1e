import SvgSkeleton.Shell.Utility.Sed.Script

/-!
How a script of `sed` is written. It may come in parts, of which each is a text of its own; the text
of a command may be the first line of the next part.
-/

namespace SvgSkeleton.Shell.Sed

/-- A part of a script: its text, and the name of the file that it is in. -/
structure Part where
  text : Bytes
  file : Option Bytes

/-- Why a script cannot be read: in which of its parts, behind how many characters, and in which
line. -/
structure Fault where
  part : Nat
  file : Option Bytes
  place : Nat
  line : Nat
  reason : Bytes

structure Reading where
  rest : Bytes
  whole : Bytes
  number : Nat
  file : Option Bytes
  later : List Part
  extended : Bool

abbrev Read := StateT Reading (Except Fault)

namespace Read

/-- Complain about what has been read up to here. -/
def fail {α : Type} (reason : Bytes) : Read α := fun s =>
  let read := s.whole.take (s.whole.length - s.rest.length)
  .error ⟨s.number, s.file, read.length, read.count '\n' + 1, reason⟩

def failText {α : Type} (reason : String) : Read α := fail reason.toList

def rest : Read Bytes := return (← get).rest

def setRest (r : Bytes) : Read Unit := modify fun s => { s with rest := r }

def advance (n : Nat) : Read Unit := modify fun s => { s with rest := s.rest.drop n }

def skip (p : Char → Bool) : Read Unit := modify fun s => { s with rest := s.rest.dropWhile p }

/-- The next part of the script, if there is one. -/
def nextPart? : Read Bool := do
  let s ← get
  match s.later with
  | [] => return false
  | p :: ps =>
    set { s with
      rest := p.text, whole := p.text, later := ps, file := p.file
      number := if p.file.isSome then s.number else s.number + 1 }
    return true

def isSpace (c : Char) : Bool := c == ' ' || (9 ≤ c.toNat && c.toNat ≤ 13)

def digits : Read (Option Nat) := do
  let ds := (← rest).takeWhile Char.isDigit
  advance ds.length
  return if ds.isEmpty then none else some (Text.ofDigits 10 ds)

/-! ### Texts between delimiters -/

/-- A text up to a delimiter, and what follows. A delimiter behind a backslash is part of it. -/
def plainUntil (delimiter : Char) (read : Bytes) : Bytes → Option (Bytes × Bytes)
  | [] => none
  | '\\' :: c :: r =>
    let kept := c != '\n' && (c != delimiter || c == '&')
    plainUntil delimiter (c :: (if kept || c = '\n' then '\\' :: read else read)) r
  | c :: r =>
    if c = delimiter then some (read.reverse, r)
    else if c = '\n' then none
    else plainUntil delimiter (c :: read) r

/-- Where in an expression a character stands. -/
inductive Within where
  | outside
  | set
  /-- Behind the sign that a name in a set begins with. -/
  | name (sign : Char)

/-- An expression up to a delimiter, and what follows. In a set a delimiter is a member. -/
def regexUntil (delimiter : Char) :
    Nat → Within → Bytes → Bytes → Option (Bytes × Bytes)
  | 0, _, _, _ => none
  | _ + 1, _, _, [] => none
  | fuel + 1, within, read, '\n' :: r => match within with
    | .set => none
    | _ =>
      if read.head? = some '\\' then regexUntil delimiter fuel within ('\n' :: read.tail) r
      else none
  | fuel + 1, within, read, c :: r =>
    match within, c with
    | .name sign, c =>
      match r with
      | ']' :: r' =>
        if c = sign then regexUntil delimiter fuel .set (']' :: c :: read) r'
        else regexUntil delimiter fuel within (c :: read) r
      | r => regexUntil delimiter fuel within (c :: read) r
    | .set, ']' => regexUntil delimiter fuel .outside (']' :: read) r
    | .set, '[' =>
      match r with
      | sign :: r' =>
        if ":.=".toList.contains sign then
          regexUntil delimiter fuel (.name sign) (sign :: '[' :: read) r'
        else regexUntil delimiter fuel .set ('[' :: read) r
      | [] => none
    | .set, '\\' =>
      match r with
      | 'n' :: r' => regexUntil delimiter fuel .set ('\n' :: read) r'
      | r => regexUntil delimiter fuel .set ('\\' :: read) r
    | .set, c => regexUntil delimiter fuel .set (c :: read) r
    | .outside, '\\' =>
      match r with
      | [] => none
      | 'n' :: r' =>
        if delimiter = 'n' then regexUntil delimiter fuel .outside ('n' :: read) r'
        else regexUntil delimiter fuel .outside ('\n' :: read) r'
      | '\n' :: r' => regexUntil delimiter fuel .outside ('\n' :: read) r'
      | c :: r' =>
        regexUntil delimiter fuel .outside (c :: (if c = delimiter then read else '\\' :: read)) r'
    | .outside, '[' =>
      if delimiter = '[' then some (read.reverse, r)
      else
        match r with
        | '^' :: ']' :: r' => regexUntil delimiter fuel .set (']' :: '^' :: '[' :: read) r'
        | '^' :: r' => regexUntil delimiter fuel .set ('^' :: '[' :: read) r'
        | ']' :: r' => regexUntil delimiter fuel .set (']' :: '[' :: read) r'
        | r => regexUntil delimiter fuel .set ('[' :: read) r
    | .outside, c =>
      if c = delimiter then some (read.reverse, r)
      else regexUntil delimiter fuel .outside (c :: read) r

/-! ### Escapes -/

/-- The character that an escape writes, from behind the backslash, and what follows. -/
def escaped? (s : Bytes) : Option (Char × Bytes) :=
  let number (base most : Nat) (r : Bytes) : Option (Char × Bytes) :=
    let ds := (r.take most).takeWhile fun c => (Text.hexValue c).any (· < base)
    if ds.isEmpty then none
    else
      let n := ds.foldl (fun n c => n * base + (Text.hexValue c).getD 0) 0
      some (Char.ofNat (n % 256), r.drop ds.length)
  match s with
  | 'a' :: r => some ('\x07', r)
  | 'f' :: r => some ('\x0c', r)
  | 'n' :: r => some ('\n', r)
  | 'r' :: r => some ('\r', r)
  | 't' :: r => some ('\t', r)
  | 'v' :: r => some ('\x0b', r)
  | 'c' :: '\\' :: '\\' :: r => some ('\x1c', r)
  | 'c' :: c :: r => some (Char.ofNat (c.toUpper.toNat ^^^ 64), r)
  | 'd' :: r => number 10 3 r
  | 'o' :: r => number 8 3 r
  | 'x' :: r => number 16 2 r
  | _ => none

/-- An expression with its escapes for characters replaced by them. -/
def unescaped : Nat → Bytes → Bytes
  | 0, s => s
  | _ + 1, [] => []
  | fuel + 1, '\\' :: c :: r =>
    if c = 'n' then '\\' :: 'n' :: unescaped fuel r
    else
      match escaped? (c :: r) with
      | some (d, r) => d :: unescaped fuel r
      | none => '\\' :: c :: unescaped fuel r
  | fuel + 1, c :: r => c :: unescaped fuel r

/-- A text with its escapes replaced, and without other backslashes. -/
def plainText : Nat → Bytes → Bytes
  | 0, s => s
  | _ + 1, [] => []
  | fuel + 1, '\\' :: c :: r =>
    match escaped? (c :: r) with
    | some (d, r) => d :: plainText fuel r
    | none => c :: plainText fuel r
  | fuel + 1, c :: r => c :: plainText fuel r

/-- The pieces of a replacement. -/
def pieces : Nat → Bytes → List Piece
  | 0, _ => []
  | _ + 1, [] => []
  | fuel + 1, '&' :: r => .group 0 :: pieces fuel r
  | fuel + 1, '\\' :: c :: r =>
    if c.isDigit then .group (Text.digitValue c) :: pieces fuel r
    else if "ULEul".toList.contains c then .case c :: pieces fuel r
    else
      match escaped? (c :: r) with
      | some (d, r) => .text [d] :: pieces fuel r
      | none => .text [c] :: pieces fuel r
  | fuel + 1, c :: r => .text [c] :: pieces fuel r

/-! ### Addresses -/

/-- What searches for an expression; nothing if it is empty. -/
def matcherOf (text : Bytes) (ignoreCase multiline : Bool) : Read (Option Matcher) := do
  if text.isEmpty then return none
  let d := if (← get).extended then Regex.Dialect.extended else Regex.Dialect.basic
  match Regex.Posix.matcher { d with multiline := multiline } ignoreCase
      (unescaped text.length text) with
  | .ok m => return some m
  | .error f => failText f.message

/-- The letters behind the expression of an address: is case ignored, and are there several
lines? -/
def addressFlags : Nat → Bool → Bool → Read (Bool × Bool)
  | 0, i, m => return (i, m)
  | fuel + 1, i, m => do
    let r := (← rest).dropWhile isBlankByte
    match r with
    | 'I' :: r =>
      setRest r
      addressFlags fuel true m
    | 'M' :: r =>
      setRest r
      addressFlags fuel i true
    | r =>
      setRest r
      return (i, m)

/-- An expression between delimiters. -/
def regexAddress (c : Char) : Read Address := do
  match regexUntil c ((← rest).length + 1) .outside [] (← rest) with
  | none =>
    let line := (← rest).takeWhile (· != '\n')
    advance line.length
    failText "unterminated address regex"
  | some (text, after) =>
    setRest after
    let (i, m) ← addressFlags (after.length + 1) false false
    return .regex (← matcherOf text i m)

/-- An address, if one stands next. -/
def address? : Read (Option Address) := do
  match ← rest with
  | '$' :: _ =>
    advance 1
    return some .last
  | '/' :: _ =>
    advance 1
    return some (← regexAddress '/')
  | '\\' :: r =>
    advance 1
    match r with
    | [] => failText "unterminated address regex"
    | c :: _ =>
      advance 1
      return some (← regexAddress c)
  | _ =>
    match ← digits with
    | none => return none
    | some n =>
      let r := (← rest).dropWhile isBlankByte
      match r with
      | '~' :: _ =>
        setRest r
        advance 1
        skip isBlankByte
        let step := (← digits).getD 0
        return some (if step = 0 then .line n else .every n step)
      | _ => return some (.line n)

/-- The end of a range, if a comma stands next. -/
def rangeEnd? : Read (Option RangeEnd) := do
  match ← rest with
  | ',' :: _ =>
    advance 1
    skip isBlankByte
    match ← rest with
    | '+' :: _ =>
      advance 1
      skip isBlankByte
      return some (.after ((← digits).getD 0))
    | '~' :: _ =>
      advance 1
      skip isBlankByte
      return some (.multiple ((← digits).getD 0))
    | _ =>
      match ← address? with
      | some a => return some (.at a)
      | none =>
        advance 1
        failText "unexpected \x60,'"
  | _ => return none

/-! ### Arguments of commands -/

/-- The rest of a line, which names a file. -/
def fileName : Read Bytes := do
  skip isBlankByte
  let name := (← rest).takeWhile (· != '\n')
  advance (name.length + 1)
  if name.isEmpty then failText "missing filename in r/R/w/W commands"
  return name

/-- The flags of a substitution: of it, and of its expression. -/
def flags (s : Substitution) (ignoreCase multiline : Bool) : Nat →
    Read (Substitution × Bool × Bool)
  | 0 => return (s, ignoreCase, multiline)
  | fuel + 1 => do
    match ← rest with
    | [] => return (s, ignoreCase, multiline)
    | c :: _ =>
      if c = '}' || c = '#' then return (s, ignoreCase, multiline)
      if c.isDigit then
        if s.nth.isSome then
          advance 1
          failText "multiple number options to \x60s' command"
        let n := (← digits).getD 0
        if n = 0 then failText "number option to \x60s' command may not be zero"
        return ← flags { s with nth := some n } ignoreCase multiline fuel
      advance 1
      match c with
      | '\n' | ';' => return (s, ignoreCase, multiline)
      | 'g' =>
        if s.all then failText "multiple \x60g' options to \x60s' command"
        flags { s with all := true } ignoreCase multiline fuel
      | 'p' =>
        if s.prints then failText "multiple \x60p' options to \x60s' command"
        flags { s with prints := true } ignoreCase multiline fuel
      | 'i' | 'I' => flags s true multiline fuel
      | 'm' | 'M' => flags s ignoreCase true fuel
      | 'e' => flags { s with runs := true } ignoreCase multiline fuel
      | 'w' => return ({ s with file := some (← fileName) }, ignoreCase, multiline)
      | ' ' | '\t' | '\r' => flags s ignoreCase multiline fuel
      | _ => failText "unknown option to \x60s'"

/-- The characters of a text up to its end, where backslashes join lines, whether it ends in a
backslash, and what follows. -/
def textLines (read : Bytes) : Bytes → Bytes × Bool × Bytes
  | [] => (read.reverse, false, [])
  | '\n' :: r => (read.reverse, false, r)
  | ['\\'] => (read.reverse, true, [])
  | '\\' :: '\n' :: r => textLines ('\n' :: read) r
  | '\\' :: c :: r => textLines (c :: '\\' :: read) r
  | c :: r => textLines (c :: read) r

/-- A text from here on, which may go on in the next parts of the script. -/
def textFrom : Nat → Read Bytes
  | 0 => return []
  | fuel + 1 => do
    let (text, joined, after) := textLines [] (← rest)
    setRest after
    let text := plainText text.length text ++ ['\n']
    if joined then
      if ← nextPart? then return text ++ (← textFrom fuel)
    return text

/-- A text from here on. -/
def textBody : Read Bytes := do textFrom ((← get).later.length + 1)

/-- The text of `a`, `i` and `c`: the rest of the line, or lines joined by backslashes. -/
def textArgument : Read Bytes := do
  skip isBlankByte
  match ← rest with
  | [] => failText "expected \\ after \x60a', \x60c' or \x60i'"
  | '\\' :: r =>
    match r.dropWhile isBlankByte with
    | '\n' :: r =>
      setRest r
      textBody
    | [] =>
      setRest []
      if ← nextPart? then textBody else return []
    | _ =>
      let r' := match r with
        | c :: r => if c = '\\' then '\\' :: r else c :: r
        | [] => []
      setRest r'
      if r'.head? = some '\\' then textBody
      else
        match r' with
        | c :: r =>
          setRest r
          return c :: (← textBody)
        | [] => textBody
  | _ => textBody

/-- Nothing but the end of a command may follow. -/
def commandEnd : Read Unit := do
  skip isBlankByte
  match ← rest with
  | [] | '}' :: _ | '#' :: _ => return ()
  | ';' :: _ | '\n' :: _ => advance 1
  | _ =>
    advance 1
    failText "extra characters after command"

/-- An argument that is a word. -/
def wordArgument : Read Bytes := do
  skip isBlankByte
  let word := (← rest).takeWhile fun c => c != ';' && c != '}' && !isSpace c
  advance word.length
  return word

/-- Two texts between delimiters, the first of which may be an expression. -/
def twoTexts (isRegex : Bool) (letter : Char) : Read (Bytes × Bytes) := do
  let fault := "unterminated \x60" ++ String.singleton letter ++ "' command"
  let unterminated {α : Type} (r : Bytes) : Read α := do
    setRest (r.dropWhile (· != '\n'))
    failText fault
  match ← rest with
  | [] => failText fault
  | d :: r =>
    if d = '\n' || d = '\\' then
      advance 1
      failText fault
    match if isRegex then regexUntil d (r.length + 1) .outside [] r else plainUntil d [] r with
    | none => unterminated r
    | some (old, r) =>
      match plainUntil d [] r with
      | none => unterminated r
      | some (new, r) =>
        setRest r
        return (old, new)

/-- The greatest group that a replacement mentions. -/
def greatestGroup (ps : List Piece) : Nat :=
  ps.foldl (fun n p => match p with
    | .group k => max n k
    | _ => n) 0

def substitution : Read Action := do
  let (old, new) ← twoTexts true 's'
  let ps := pieces new.length new
  let (s, i, m) ← flags ⟨none, ps, false, none, false, false, none⟩ false false
    ((← rest).length + 1)
  let matcher ← matcherOf old i m
  let groups := (matcher.map (·.groups)).getD 9
  if greatestGroup ps > groups then
    fail ("invalid reference \\".toList ++ Bytes.ofNat (greatestGroup ps)
      ++ " on \x60s' command's RHS".toList)
  return .substitute { s with regex := matcher }

def translation : Read Action := do
  let (old, new) ← twoTexts false 'y'
  let old := plainText old.length old
  let new := plainText new.length new
  if old.length != new.length then
    failText "strings for \x60y' command are different lengths"
  commandEnd
  return .translate (old.zip new)

/-- The command with a letter. Blocks get their ends later. -/
def action (c : Char) : Read Action := do
  match c with
  | '\x7b' => return .block 0
  | '}' =>
    commandEnd
    return .blockEnd
  | 's' => substitution
  | 'y' => translation
  | 'a' => return .append (← textArgument)
  | 'i' => return .insert (← textArgument)
  | 'c' => return .change (← textArgument)
  | 'e' =>
    skip isBlankByte
    match ← rest with
    | [] => return .run none
    | '\n' :: _ =>
      advance 1
      return .run none
    | _ => return .run (some (← textBody))
  | ':' =>
    let name ← wordArgument
    if name.isEmpty then failText "\":\" lacks a label"
    return .label name
  | 'b' | 't' | 'T' => return .jump c (← wordArgument)
  | 'q' | 'Q' =>
    skip isBlankByte
    let status := (← digits).getD 0
    commandEnd
    return .quit (c = 'q') status
  | 'l' | 'L' =>
    skip isBlankByte
    let width ← digits
    commandEnd
    return if c = 'l' then .list width else .nothing
  | 'r' => return .readFile (← fileName)
  | 'R' => return .readLine (← fileName)
  | 'w' => return .writeLines (← fileName)
  | 'W' => return .writeFirst (← fileName)
  | 'v' =>
    let version ← wordArgument
    if (version.head?.getD '0').toNat > '4'.toNat then failText "expected newer version of sed"
    return .nothing
  | c =>
    if "dDpPgGhHxnN=zF".toList.contains c then
      commandEnd
      return .letter c
    else fail ("unknown command: \x60".toList ++ [c, '\''])

/-! ### Scripts -/

/-- What is wrong with the addresses of a command. -/
def addressFault? (c : Char) (first : Option Address) (last : Option RangeEnd) : Option String :=
  match c with
  | '#' => if first.isSome then some "comments don't accept any addresses" else none
  | ':' => if first.isSome then some ": doesn't want any addresses" else none
  | 'q' | 'Q' => if last.isSome then some "command only uses one address" else none
  | _ => none

/-- Is it line 0 where that makes no sense? -/
def isBadZero (first : Option Address) (last : Option RangeEnd) : Bool :=
  match first, last with
  | some (.line 0), some (.at (.regex _)) => false
  | some (.line 0), _ => true
  | _, _ => false

/-- The commands of a script, in their order. `depth` blocks are open. -/
def instructions : Nat → Nat → Read (List Instruction)
  | 0, _ => return []
  | fuel + 1, depth => do
    skip fun c => isSpace c || c == ';'
    match ← rest with
    | [] => if ← nextPart? then instructions fuel depth else return []
    | '+' :: r | '~' :: r =>
      advance 1
      let ds := (r.dropWhile isBlankByte).takeWhile Char.isDigit
      setRest ((r.dropWhile isBlankByte).drop ds.length)
      failText "invalid usage of +N or ~N as first address"
    | _ =>
      let first ← address?
      if first.isSome then skip isBlankByte
      let last ← if first.isSome then rangeEnd? else pure none
      if last.isSome then skip isBlankByte
      if isBadZero first last then
        advance 1
        failText "invalid usage of line address 0"
      let negated := (← rest).head? = some '!'
      if negated then
        advance 1
        skip isBlankByte
        if (← rest).head? = some '!' then
          advance 1
          failText "multiple \x60!'s"
      match ← rest with
      | [] => failText "missing command"
      | c :: _ =>
        advance 1
        if let some fault := addressFault? c first last then failText fault
        if c = '#' then
          skip (· != '\n')
          instructions fuel depth
        else
          if c = '}' && depth = 0 then failText "unexpected \x60\x7d'"
          if c = '}' && first.isSome then failText "\x60\x7d' doesn't want any addresses"
          let a ← action c
          let depth := if c = '\x7b' then depth + 1 else if c = '}' then depth - 1 else depth
          return ⟨first, last, negated, a⟩ :: (← instructions fuel depth)

end Read

/-- The blocks with the places behind their ends. `opened` are the places of the blocks that are
open. -/
def closeBlocks (program : Array Instruction) (i : Nat) (opened : List Nat) :
    List Instruction → Option (Array Instruction)
  | [] => if opened.isEmpty then some program else none
  | x :: rest =>
    match x.action, opened with
    | .block _, _ => closeBlocks program (i + 1) (i :: opened) rest
    | .blockEnd, o :: os =>
      closeBlocks (program.modify o fun b => { b with action := .block (i + 1) }) (i + 1) os rest
    | _, _ => closeBlocks program (i + 1) opened rest

/-- The program that the parts of a script are. -/
def program? (extended : Bool) (parts : List Part) : Except Fault (Array Instruction) := do
  match parts with
  | [] => return #[]
  | p :: ps =>
    let size := sumOf (parts.map fun p => p.text.length + 1)
    let start : Reading :=
      ⟨p.text, p.text, if p.file.isSome then 0 else 1, p.file, ps, extended⟩
    let (list, s) ← (Read.instructions (size + 1) 0).run start
    match closeBlocks list.toArray 0 [] list with
    | some program => return program
    | none => throw ⟨s.number, s.file, 0, 0, "unmatched \x60\x7b'".toList⟩

end SvgSkeleton.Shell.Sed
