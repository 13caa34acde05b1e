import SvgSkeleton.Shell.Reader.Word

/-!
Reading tokens. Whether a word is a reserved one or an abbreviation depends on where it stands, so
whoever asks for a token says what is looked for.
-/

namespace SvgSkeleton.Shell.Reader

/-- What is looked for in a token. -/
structure Wanted where
  /-- Line feeds are passed over. -/
  behindLines : Bool
  keywords : Bool
  aliases : Bool

namespace Wanted

def any : Wanted := ⟨false, false, false⟩

/-- A token where a command may begin. -/
def command : Wanted := ⟨false, true, true⟩

/-- A token on this or a further line, where a command may begin. -/
def commandBelow : Wanted := ⟨true, true, true⟩

end Wanted

/-- A redirection operator at the front of a text, with the channel that it is for if none is given,
and its length. The flag says that tabs are left out of a here-document. -/
def redirectionOperator? (s : Bytes) : Option (Nat × Direction × Bool × Nat) :=
  match s with
  | '<' :: '<' :: '-' :: _ => some (0, .here 0, true, 3)
  | '<' :: '<' :: _ => some (0, .here 0, false, 2)
  | '<' :: '&' :: _ => some (0, .copy, false, 2)
  | '<' :: '>' :: _ => some (0, .readWrite, false, 2)
  | '<' :: _ => some (0, .read, false, 1)
  | '>' :: '>' :: _ => some (1, .append, false, 2)
  | '>' :: '&' :: _ => some (1, .copy, false, 2)
  | '>' :: '|' :: _ => some (1, .replace, false, 2)
  | '>' :: _ => some (1, .write, false, 1)
  | _ => none

/-- A redirection at the front of a text, with a digit before it or without one. -/
def redirection? (s : Bytes) : Option (Token × Nat) :=
  match redirectionOperator? s, s with
  | some (channel, direction, trimmed, n), _ => some (.redirection channel direction trimmed, n)
  | none, c :: r =>
    if !c.isDigit then none
    else (redirectionOperator? r).map fun (_, direction, trimmed, n) =>
      (.redirection (Text.digitValue c) direction trimmed, n + 1)
  | none, [] => none

/-- Note that abbreviations have been read to their ends. The result says whether what follows may
be an abbreviation because of one of them. -/
def leaveAliases : Read Bool := do
  let s ← get
  if s.unfolded.isEmpty then return false
  let left := s.rest.length
  let goesOn := s.unfolded.any fun a => a.goesOn && left ≤ a.behind
  let unfolded := (s.unfolded.filter (left ≥ ·.behind)).map fun a =>
    if left ≤ a.behind then { a with goesOn := false } else a
  set { s with unfolded := unfolded }
  return goesOn

/-- The next token, where a word is nothing but a word, and whether it may be an abbreviation
because of another one in front of it. -/
def plainToken (list : ListReader) (fuel : Nat) : Read (Token × Bool) := do
  if let some t := (← get).pushed then
    modify fun s => { s with pushed := none }
    return (t, false)
  skipBlanks fuel
  let goesOn ← leaveAliases
  match ← ahead with
  | [] => return (.endOfText, goesOn)
  | '\n' :: _ =>
    advance 1
    return (.lineFeed, goesOn)
  | rest =>
    match signs.find? (·.toList.isPrefixOf rest), redirection? rest with
    | some sign, _ =>
      advance sign.length
      return (.sign sign, goesOn)
    | none, some (t, n) =>
      advance n
      return (t, goesOn)
    | none, none => return (.word (← parts list fuel .plain), goesOn)

/-- What a word without anything quoted or expanded in it says. -/
def unquotedText? (w : Word) : Option Bytes := if hasQuotes w then none else plainText? w

/-- The text that an abbreviation stands for. One that is being read stands for nothing. -/
def alias? (name : Bytes) : Read (Option Bytes) := do
  let s ← get
  let inUse := s.unfolded.any fun a => a.name == name && s.rest.length ≥ a.behind
  return if inUse then none else s.aliases.lookup name

/-- Put the text of an abbreviation in front of what is left. -/
def unfold (name value : Bytes) : Read Unit := modify fun s =>
  let goesOn := value.getLast?.any isBlank
  if value.isEmpty then s
  else { s with rest := value ++ s.rest
                unfolded := ⟨name, s.rest.length, goesOn⟩ :: s.unfolded }

/-- The next token. -/
def token (list : ListReader) : Nat → Wanted → Read Token
  | 0, _ => tooDeep
  | fuel + 1, wanted => do
    let (t, goesOn) ← plainToken list fuel
    let wanted := { wanted with aliases := wanted.aliases || goesOn }
    match t with
    | .lineFeed =>
      if !wanted.behindLines then return t
      hereDocuments list fuel
      token list fuel wanted
    | .word w =>
      match unquotedText? w with
      | none => return t
      | some name =>
        if wanted.keywords && reservedWords.contains name then return .keyword name
        if !wanted.aliases then return t
        match ← alias? name with
        | none => return t
        | some value =>
          unfold name value
          token list fuel wanted
    | t => return t

end SvgSkeleton.Shell.Reader
