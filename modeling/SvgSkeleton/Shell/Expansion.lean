import SvgSkeleton.Shell.Arithmetic
import SvgSkeleton.Shell.Pattern

/-!
From words to fields: parameters, outputs of commands and arithmetic are put in, what came of them
is split where it was not quoted, and patterns are replaced by the paths that they match.
-/

namespace SvgSkeleton.Shell

/-- A piece of an expanded word. -/
inductive Piece where
  /-- Characters, quoted or not; those that came of an expansion may be split. -/
  | chars (s : Bytes) (quoted splits : Bool)
  /-- The place between two parameters of `$@`. -/
  | cut (quoted : Bool)
  deriving DecidableEq

namespace Expansion

/-- The characters between which words are split if nothing else is said. -/
def usualSeparators : Bytes := [' ', '\t', '\n']

def separators : Shell Bytes := do
  return (← valueOf? "IFS".toList).getD usualSeparators

/-- The letters of all settings, in the order in which `$-` shows those that are on. -/
def settingLetters : List Char := "pubaCEVvxsnmiIfe".toList

/-- The positional parameters as one string. -/
def joinedArgs : Shell Bytes := do
  return Bytes.join ((← separators).take 1) (← get).args

/-- The value of a parameter. -/
def parameter? (name : Bytes) : Shell (Option Bytes) := do
  let m ← get
  match name with
  | ['@'] | ['*'] => if m.args.isEmpty then return none else return some (← joinedArgs)
  | ['#'] => return some (Bytes.ofNat m.args.length)
  | ['?'] => return some (Bytes.ofNat m.status)
  | ['$'] => return some (Bytes.ofNat m.process)
  | ['!'] => return m.background.map Bytes.ofNat
  | ['-'] => return some (settingLetters.filter m.switches.contains)
  | ['0'] => return some m.name
  | c :: _ => if c.isDigit then return m.args[Text.ofDigits 10 name - 1]? else valueOf? name
  | [] => return none

/-- End the script because of a parameter. -/
def parameterFails {α : Type} (name reason : Bytes) : Shell α :=
  failWith (name ++ ": ".toList ++ reason)

/-- The value of a parameter that must have one where that is asked for. -/
def checkedParameter? (name : Bytes) : Shell (Option Bytes) := do
  let value ← parameter? name
  if value.isNone && (← isOn 'u') && name != ['@'] && name != ['*'] then
    parameterFails name "parameter not set".toList
  return value

/-- The pieces of a value. -/
def ofValue (quoted : Bool) (value : Bytes) : List Piece := [.chars value quoted (!quoted)]

/-- The pieces of the positional parameters, each by itself. -/
def ofArgs (quoted : Bool) (args : List Bytes) : List Piece :=
  List.intercalate [.cut quoted] (args.map (ofValue quoted))

/-- The pieces of `$name`. The positional parameters stay apart only where words are split. -/
def ofParameter (splits quoted : Bool) (name : Bytes) : Shell (List Piece) := do
  if splits && (name = ['@'] || (name = ['*'] && !quoted)) then
    return ofArgs quoted (← get).args
  return ofValue quoted ((← checkedParameter? name).getD [])

/-- The characters of pieces, with what was quoted in them. -/
def marked (pieces : List Piece) : List Marked :=
  pieces.flatMap fun p => match p with
    | .chars s quoted _ => s.map (·, quoted)
    | .cut _ => [(' ', true)]

/-- The characters of pieces. -/
def plain (pieces : List Piece) : Bytes := (marked pieces).map (·.1)

/-- Pieces of a word that stands in for a value. What is quoted is there even if it is empty. -/
def standIn (quoted : Bool) (pieces : List Piece) : List Piece :=
  let inner := pieces.map fun p => match p with
    | .chars s q _ => .chars s (q || quoted) (!q && !quoted)
    | .cut q => .cut q
  if quoted && inner.isEmpty then [.chars [] true false] else inner

/-! ### Home folders -/

/-- The home folder of a user; without a name, of whoever runs the shell. -/
def homeOf? (name : Bytes) : Shell (Option Bytes) := do
  if name.isEmpty then valueOf? "HOME".toList
  else return if name = "root".toList then some "/root".toList else none

/-- The home folder that a text begins with a tilde for, and what follows in the text. A colon ends
the name of the user in a definition, and the end of the text does if it is all of the word. -/
def homeAt? (defines whole : Bool) (s : Bytes) : Shell (Option (Bytes × Bytes)) := do
  match s with
  | '~' :: r =>
    let name := r.takeWhile fun c => c != '/' && !(defines && c == ':')
    let rest := r.drop name.length
    if rest.isEmpty && !whole then return none
    return (← homeOf? name).map (·, rest)
  | _ => return none

/-- A text with its tildes replaced: one at the front, and in a definition those behind colons. -/
def homesIn (defines whole : Bool) : Nat → Bool → Bytes → Shell Word
  | 0, _, s => return [.text false s]
  | fuel + 1, front, s => do
    match ← if front then homeAt? defines whole s else pure none with
    | some (home, rest) =>
      let before := if home.isEmpty then [] else [.text true home]
      let after ← if rest.isEmpty then pure [] else homesIn defines whole fuel false rest
      return before ++ after
    | none =>
      let before := s.takeWhile (· != ':')
      match defines, s.drop before.length with
      | true, _ :: r =>
        let after ← if r.isEmpty then pure [] else homesIn defines whole fuel true r
        return .text false (before ++ [':']) :: after
      | _, _ => return [.text false s]

/-- The word with its tildes replaced by home folders. -/
def tilde (defines : Bool) (w : Word) : Shell Word := do
  let hasTilde := w.any fun p => match p with
    | .text false s => s.contains '~'
    | _ => false
  if !hasTilde then return w
  let rec go (front : Bool) : Word → Shell Word
    | [] => return []
    | .text false s :: rest => do
      let new ← if front || defines then homesIn defines rest.isEmpty (s.length + 1) front s
        else pure [.text false s]
      return new ++ (← go false rest)
    | p :: rest => do return p :: (← go false rest)
  go true w

/-! ### Parts of words -/

/-- The pieces of a part of a word. Words inside of it are expanded by `expand`, whose flag says
whether they are split, and commands are run by `outputOf`. -/
def ofPart (expand : Bool → Word → Shell (List Piece)) (outputOf : Command → Shell Bytes)
    (splits : Bool) : Part → Shell (List Piece)
  | .text quoted s => return [.chars s quoted false]
  | .parameter quoted name => ofParameter splits quoted name
  | .length quoted name => do
    let value := (← checkedParameter? name).getD []
    return ofValue quoted (Bytes.ofNat value.length)
  | .output quoted body => return ofValue quoted (← outputOf body)
  | .arithmetic quoted expr => do
    let value ← Arithmetic.evaluate (plain (← expand false expr))
    return ofValue quoted (Bytes.ofInt value)
  | .badSubstitution => failWith "Bad substitution".toList
  | .trim quoted name suffix longest pattern => do
    let value := (← checkedParameter? name).getD []
    let glob := globOf (marked (← expand false (← tilde false pattern)))
    let rest := if suffix then
        value.take (value.length - (Glob.matchedSuffix? glob longest value).getD 0)
      else value.drop ((Glob.matchedLength? glob longest value).getD 0)
    return ofValue quoted rest
  | .fallback quoted name kind colon word => do
    let value ← parameter? name
    let missing := match value with
      | none => true
      | some v => colon && v.isEmpty
    let word ← if quoted then pure word else tilde false word
    match kind with
    | .use =>
      if missing then return standIn quoted (← expand splits word)
      else ofParameter splits quoted name
    | .instead =>
      if missing then return ofValue quoted []
      else return standIn quoted (← expand splits word)
    | .assign =>
      if !missing then ofParameter splits quoted name
      else if !isName name then parameterFails name "bad variable name".toList
      else
        let value := plain (← expand false word)
        assign name value
        return ofValue quoted value
    | .fail =>
      if !missing then ofParameter splits quoted name
      else
        let given := plain (← expand false word)
        parameterFails name (if !word.isEmpty then given
          else if colon then "parameter not set or null".toList else "parameter not set".toList)

/-! ### Fields -/

/-- Fields while pieces are split: those that are complete, latest first, the one at hand, and
whether blanks have just ended one. -/
structure Split where
  done : List (List Marked)
  field : Option (List Marked)
  ended : Bool

namespace Split

def init : Split := ⟨[], none, false⟩

def close (s : Split) : Split :=
  match s.field with
  | some f => { s with done := f.reverse :: s.done, field := none }
  | none => s

def add (s : Split) (m : Marked) : Split :=
  { s with field := some (m :: s.field.getD []), ended := false }

/-- A character that may separate fields. -/
def splitting (ifs : Bytes) (s : Split) (c : Char) : Split :=
  if !ifs.contains c then s.add (c, false)
  else if usualSeparators.contains c then
    match s.field with
    | some _ => { s.close with ended := true }
    | none => s
  else
    match s.field with
    | some _ => { s.close with ended := false }
    | none => if s.ended then { s with ended := false } else { s with done := [] :: s.done }

def piece (ifs : Bytes) (s : Split) (p : Piece) : Split :=
  match p with
  | .cut quoted => { s.close with ended := !quoted }
  | .chars text quoted splits =>
    if splits && !quoted then text.foldl (splitting ifs) s
    else
      let s := if quoted then { s with field := some (s.field.getD []), ended := false } else s
      text.foldl (fun s c => s.add (c, quoted)) s

end Split

/-- The fields of pieces. -/
def split (ifs : Bytes) (pieces : List Piece) : List (List Marked) :=
  (pieces.foldl (Split.piece ifs) .init).close.done.reverse

/-! ### Paths -/

/-- The components of a pattern for paths, between slashes. -/
def components (s : List Marked) : List (List Marked) :=
  s.foldr (fun m cs =>
    if m.1 = '/' then [] :: cs
    else
      match cs with
      | [] => [[m]]
      | c :: cs => (m :: c) :: cs) [[]]

/-- The names in the folder that a path denotes. -/
def namesIn (tree : FileTree) (cwd : Place) (path : Bytes) : List Bytes :=
  let path := if path.isEmpty then ['.'] else path
  match tree.readFolder cwd (Bytes.toList path) with
  | .ok entries => ['.'] :: ['.', '.'] :: entries.map fun e => Bytes.ofList e.1
  | .error _ => []

/-- May the pattern match the name? A dot at the beginning must be written. -/
def matchesName (component : List Marked) (name : Bytes) : Bool :=
  (name.head? != some '.' || component.head?.any (·.1 == '.'))
    && Glob.matchesAll (globOf component) name

def exists? (tree : FileTree) (cwd : Place) (path : Bytes) : Bool :=
  match tree.locate cwd (Bytes.toList path) with
  | .ok _ => true
  | .error _ => false

/-- The paths that match the components, behind the path so far. -/
def paths (tree : FileTree) (cwd : Place) (before : Bytes) : List (List Marked) → List Bytes
  | [] => [before]
  | c :: rest =>
    let go (name : Bytes) : List Bytes :=
      match rest with
      | [] => [before ++ name]
      | rest => paths tree cwd (before ++ name ++ ['/']) rest
    if isPattern c then
      (((namesIn tree cwd before).filter (matchesName c)).mergeSort Bytes.inOrder).flatMap go
    else (go (c.map (·.1))).filter (exists? tree cwd)

/-- The fields that a field becomes: the paths that match it, or itself. -/
def matching (m : Machine) (field : List Marked) : List Bytes :=
  let text := field.map (·.1)
  if m.switches.contains 'f' || !isPattern field then [text]
  else
    match paths m.tree m.cwd [] (components field) with
    | [] => [text]
    | found => found

end Expansion

/-- A way to expand a word. The flag says whether it is split. -/
abbrev Expander := Bool → Word → Shell (List Piece)

open Expansion in
/-- The fields of a word. -/
def fieldsOf (expand : Expander) (w : Word) : Shell (List Bytes) := do
  let pieces ← expand true (← tilde false w)
  let ifs ← separators
  let m ← get
  return (split ifs pieces).flatMap (matching m)

open Expansion in
/-- The single string that a word becomes where it is not split. -/
def stringOf (expand : Expander) (w : Word) : Shell Bytes := do
  return plain (← expand false (← tilde false w))

open Expansion in
/-- The value that a word gives to a variable. -/
def definedBy (expand : Expander) (w : Word) : Shell Bytes := do
  return plain (← expand false (← tilde true w))

end SvgSkeleton.Shell
