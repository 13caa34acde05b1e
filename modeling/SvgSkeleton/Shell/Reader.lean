import SvgSkeleton.Shell.Reader.Token

/-!
Reading commands. A script is read and run line by line, so that a fault further down shows only
when it is reached; `nextLine` reads the commands of one line, with all lines that they take up.
-/

namespace SvgSkeleton.Shell.Reader

/-- The most that a script can be nested and long, for texts that are this long. -/
def fuelFor (s : Source) : Nat :=
  16 * s.rest.length + 64 * sumOf (s.aliases.map fun a => a.2.length + 1) + 64

/-- A redirection, from behind its operator. -/
def redirectionRest (list : ListReader) (fuel : Nat) (channel : Nat) (direction : Direction)
    (trimmed : Bool) : Read Redirection := do
  match direction with
  | .here _ =>
    skipBlanks fuel
    if (← ahead).head?.all isMeta then unexpected (← token list fuel .any) none
    let word ← parts list fuel .delimiter
    let id := (← get).count
    let h : Announced := ⟨id, (plainText? word).getD [], hasQuotes word, trimmed⟩
    modify fun s => { s with count := id + 1, announced := h :: s.announced }
    return (channel, .here id, [])
  | direction =>
    match ← token list fuel .any with
    | .word w => return (channel, direction, w)
    | t => unexpected t none

/-- Redirections behind a command that holds others. -/
def redirections (list : ListReader) : Nat → Read (List Redirection)
  | 0 => tooDeep
  | fuel + 1 => do
    match ← token list fuel .command with
    | .redirection channel direction trimmed =>
      let r ← redirectionRest list fuel channel direction trimmed
      return r :: (← redirections list fuel)
    | t =>
      putBack t
      return []

/-- Pass over a reserved word that must be next. -/
def expect (list : ListReader) (fuel : Nat) (wanted : Wanted) (word : String) : Read Unit := do
  let t ← token list fuel wanted
  if !t.isKeyword word then unexpected t (some ("\"" ++ word ++ "\""))

/-- The name in front of an equals sign, if a word begins with an assignment, and the value. -/
def assignment? (w : Word) : Option (Bytes × Word) :=
  match w with
  | .text false s :: rest =>
    let name := s.takeWhile isNameChar
    if isName name && (s.drop name.length).head? == some '=' then
      let value := s.drop (name.length + 1)
      some (name, if value.isEmpty then rest else .text false value :: rest)
    else none
  | _ => none

/-- What has been read of a simple command. -/
structure Simple where
  line : Nat
  assignments : List (Bytes × Word)
  words : List Word
  redirections : List Redirection

def Simple.command (c : Simple) : Command :=
  .simple c.line c.assignments.reverse c.words.reverse c.redirections.reverse

/-- The words up to something else, which is returned with them. -/
def wordList (list : ListReader) : Nat → Read (List Word × Token)
  | 0 => tooDeep
  | fuel + 1 => do
    match ← token list fuel .any with
    | .word w =>
      let (words, t) ← wordList list fuel
      return (w :: words, t)
    | t => return ([], t)

/-- The pattern that a token is. What is none repeats the one before. -/
def patternOf (before : Word) : Token → Word
  | .word w => w
  | .keyword w => [.text false w]
  | _ => before

/-- The patterns of an arm, between bars, from the token that is the first of them. -/
def patterns (list : ListReader) : Nat → Word → Token → Read (List Word)
  | 0, _, _ => tooDeep
  | fuel + 1, before, first => do
    let word := patternOf before first
    let t ← token list fuel .any
    if t.isSign "|" then return word :: (← patterns list fuel word (← token list fuel .any))
    if !t.isSign ")" then unexpected t (some "\")\"")
    return [word]

mutual

/-- Commands up to a token that ends them, which is put back. On a single line, a line feed is such
a token, and is passed over. Such a token may be the first one where there may be no commands. -/
def sequence : Nat → Bool → Bool → Read Command
  | 0, _, _ => tooDeep
  | fuel + 1, single, mayBeEmpty => do
    let list := sequence fuel false true
    match ← token list fuel ⟨!single, true, true⟩ with
    | .lineFeed =>
      hereDocuments list fuel
      return .nothing
    | .endOfText =>
      hereDocuments list fuel
      putBack .endOfText
      return .nothing
    | t =>
      putBack t
      if mayBeEmpty && t.endsList then return .nothing
      let first ← andOr fuel
      let t ← token list fuel .any
      match t with
      | .endOfText =>
        hereDocuments list fuel
        putBack t
        return first
      | .lineFeed =>
        putBack t
        return .inTurn first (← sequence fuel single (!single))
      | .sign "&" => return .inTurn (.background first) (← sequence fuel single (!single))
      | .sign ";" => return .inTurn first (← sequence fuel single (!single))
      | t =>
        if single then unexpected t none
        putBack t
        return first

/-- Pipelines tied by `&&` and `||`. -/
def andOr : Nat → Read Command
  | 0 => tooDeep
  | fuel + 1 => do andOrRest fuel (← pipeline fuel .any)

def andOrRest : Nat → Command → Read Command
  | 0, _ => tooDeep
  | fuel + 1, first => do
    match ← token (sequence fuel false true) fuel .any with
    | .sign "&&" => andOrRest fuel (.both first (← pipeline fuel .commandBelow))
    | .sign "||" => andOrRest fuel (.either first (← pipeline fuel .commandBelow))
    | t =>
      putBack t
      return first

def pipeline : Nat → Wanted → Read Command
  | 0, _ => tooDeep
  | fuel + 1, wanted => do
    let t ← token (sequence fuel false true) fuel wanted
    let negated := t.isKeyword "!"
    if !negated then putBack t
    match ← piped fuel (if negated then .command else .any) with
    | [c] => return if negated then .pipeline true [c] else c
    | cs => return .pipeline negated cs

/-- Commands with bars between them. -/
def piped : Nat → Wanted → Read (List Command)
  | 0, _ => tooDeep
  | fuel + 1, wanted => do
    let first ← command fuel wanted
    let t ← token (sequence fuel false true) fuel .any
    if t.isSign "|" then return first :: (← piped fuel .commandBelow)
    putBack t
    return [first]

/-- A command with its redirections. -/
def command : Nat → Wanted → Read Command
  | 0, _ => tooDeep
  | fuel + 1, wanted => do
    let list := sequence fuel false true
    let line := (← get).line
    let t ← token list fuel wanted
    let simpleOne : Bool := match t with
      | .word _ | .redirection .. => true
      | _ => false
    if simpleOne then
      putBack t
      simple fuel ⟨(← get).line, [], [], []⟩
    else
      let c ← compound fuel line t
      match ← redirections list fuel with
      | [] => return c
      | rs => return .redirected line c rs

/-- A command that holds others, from behind its first token. -/
def compound : Nat → Nat → Token → Read Command
  | 0, _, _ => tooDeep
  | fuel + 1, line, first => do
    let list := sequence fuel false true
    let body : Read Command := sequence fuel false false
    match first with
    | .sign "(" =>
      let inner ← body
      let t ← token list fuel .any
      if !t.isSign ")" then unexpected t (some "\")\"")
      return .subshell line inner
    | .keyword w =>
      match String.ofList w with
      | "\x7b" =>
        let inner ← body
        expect list fuel .any "\x7d"
        return .group inner
      | "if" => ifRest fuel
      | "while" => loopRest fuel false
      | "until" => loopRest fuel true
      | "for" => forRest fuel line
      | "case" =>
        match ← token list fuel .any with
        | .word word =>
          expect list fuel .commandBelow "in"
          return .select line word (← caseArms fuel word)
        | t => unexpected t (some "word")
      | _ => unexpected first none
    | _ => unexpected first none

/-- The rest of a conditional, from behind `if` or `elif`. -/
def ifRest : Nat → Read Command
  | 0 => tooDeep
  | fuel + 1 => do
    let list := sequence fuel false true
    let test ← sequence fuel false false
    expect list fuel .any "then"
    let yes ← sequence fuel false false
    let t ← token list fuel .any
    if t.isKeyword "elif" then return .cond test yes (← ifRest fuel)
    if t.isKeyword "else" then
      let no ← sequence fuel false false
      expect list fuel .any "fi"
      return .cond test yes no
    putBack t
    expect list fuel .any "fi"
    return .cond test yes .nothing

/-- The rest of a loop, from behind its first word. -/
def loopRest : Nat → Bool → Read Command
  | 0, _ => tooDeep
  | fuel + 1, negated => do
    let list := sequence fuel false true
    let test ← sequence fuel false false
    expect list fuel .any "do"
    let body ← sequence fuel false false
    expect list fuel .any "done"
    return .loop negated test body

/-- The rest of a loop over words, from behind `for`. -/
def forRest : Nat → Nat → Read Command
  | 0, _ => tooDeep
  | fuel + 1, line => do
    let list := sequence fuel false true
    let name? := match ← token list fuel .any with
      | .word w => (unquotedText? w).filter isName
      | _ => none
    match name? with
    | none => fail "Bad for loop variable"
    | some name =>
      let t ← token list fuel .commandBelow
      let words ← do
        if t.isKeyword "in" then
          let (words, t) ← wordList list fuel
          match t with
          | .lineFeed | .sign ";" => pure (some words)
          | t => unexpected t none
        else
          if !t.isSign ";" then putBack t
          pure none
      expect list fuel .commandBelow "do"
      let body ← sequence fuel false false
      expect list fuel .any "done"
      return .each line name words body

/-- The arms of a `case`, and its end. -/
def caseArms : Nat → Word → Read (List (List Word × Command))
  | 0, _ => tooDeep
  | fuel + 1, before => do
    let list := sequence fuel false true
    let wanted : Wanted := ⟨true, true, false⟩
    let t ← token list fuel wanted
    if t.isKeyword "esac" then return []
    let t ← if t.isSign "(" then token list fuel .any else pure t
    let pats ← patterns list fuel before t
    let body ← list
    let t ← token list fuel wanted
    if t.isKeyword "esac" then return [(pats, body)]
    if !t.isSign ";;" then unexpected t (some "\";;\"")
    return (pats, body) :: (← caseArms fuel (pats.getLastD before))

/-- The rest of a simple command, or the definition of a function. -/
def simple : Nat → Simple → Read Command
  | 0, _ => tooDeep
  | fuel + 1, c => do
    let list := sequence fuel false true
    match ← token list fuel ⟨false, false, c.words.isEmpty⟩ with
    | .redirection channel direction trimmed =>
      let r ← redirectionRest list fuel channel direction trimmed
      simple fuel { c with redirections := r :: c.redirections }
    | .word w =>
      match (if c.words.isEmpty then assignment? w else none) with
      | some a => simple fuel { c with assignments := a :: c.assignments }
      | none => simple fuel { c with words := w :: c.words }
    | t =>
      match t.isSign "(", c.words, c.assignments, c.redirections with
      | true, [w], [], [] =>
        let t ← token list fuel .any
        if !t.isSign ")" then unexpected t (some "\")\"")
        match (unquotedText? w).filter fun s => isName s && !isSpecialCommand s with
        | none => fail "Bad function name"
        | some name => return .define name (← command fuel .commandBelow)
      | _, _, _, _ =>
        putBack t
        return c.command

end

/-- The commands of the next line, or nothing at the end of the script. -/
def nextLine : Read (Option Command) := do
  let fuel := fuelFor (← get)
  modify fun s => { s with pushed := none }
  let list := sequence fuel false true
  match ← token list fuel .command with
  | .endOfText => return none
  | t =>
    putBack t
    return some (← sequence fuel true false)

end SvgSkeleton.Shell.Reader
