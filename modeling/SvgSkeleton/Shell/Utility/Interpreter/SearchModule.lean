import SvgSkeleton.Shell.Regex.Perl
import SvgSkeleton.Shell.Utility.Interpreter.StoreMethod

/-!
Searching texts for expressions, and putting others in place of what is found.
-/

namespace SvgSkeleton.Shell.Interpreter.SearchModule

def names : List String :=
  ["match", "search", "fullmatch", "findall", "finditer", "sub", "subn", "split", "compile",
   "escape"]

/-- The numbers of settings. -/
def settings : List (String × Int) :=
  [("IGNORECASE", 2), ("I", 2), ("MULTILINE", 8), ("M", 8), ("DOTALL", 16), ("S", 16),
   ("VERBOSE", 64), ("X", 64), ("ASCII", 256), ("A", 256)]

/-- The settings that a number means. -/
def settingsOf (n : Int) : Regex.Perl.Settings :=
  let has (k : Nat) : Bool := n.toNat &&& k != 0
  ⟨has 2, has 8, has 16, has 64⟩

/-- The expression that a value is. -/
def patternOf (v : Value) (flags : Int) : Run (Matcher × List Char) := do
  match v, ← objectOf? v with
  | _, some (.pattern m s) => return (m, s)
  | .text s, _ | .bytes s, _ =>
    match Regex.Perl.matcher (settingsOf flags) s with
    | .ok m => return (m, s)
    | .error f => raise "re.error" f.message
  | _, _ => raise "TypeError" "first argument must be string or compiled pattern"

/-- A match at a position that is not empty. -/
def lastingAt? (m : Matcher) (p : Regex.Position) : Option Match :=
  ((Regex.ends m.options m.expression p).find? fun q => p.index < q.index).map fun q => ⟨p, q⟩

/-- The matches from a position on. One behind an empty one is not empty where that one is. -/
def matchesFrom (m : Matcher) : Nat → Bool → Regex.Position → List Match
  | 0, _, _ => []
  | fuel + 1, behindEmpty, p =>
    let found := if behindEmpty then
        (lastingAt? m p).orElse fun _ =>
          if p.rest.isEmpty then none else m.search? p.next.cleared
      else m.search? p
    match found with
    | none => []
    | some f => f :: matchesFrom m fuel f.isEmpty f.last.cleared

/-- All matches in a text. -/
def allIn (m : Matcher) (s : List Char) : List Match :=
  matchesFrom m (2 * s.length + 3) false (.start s)

/-- What is given for a match: what it is, or its groups. -/
def foundValue (make : List Char → Value) (m : Matcher) (f : Match) : Value :=
  let group (n : Nat) : Value := make ((f.group? n).getD [])
  match m.groups with
  | 0 => group 0
  | 1 => group 1
  | n => .tuple ((List.range n).map fun i => group (i + 1))

/-- What a text in place of a match comes to, with groups in it. -/
def expanded (m : Matcher) (f : Match) : Nat → List Char → List Char
  | 0, _ => []
  | _ + 1, [] => []
  | fuel + 1, '\\' :: 'g' :: '<' :: r =>
    let name := r.takeWhile (· != '>')
    let rest := r.drop (name.length + 1)
    let n := match Bytes.toNat? name with
      | some n => n
      | none => (m.names.lookup name).getD 0
    (f.group? n).getD [] ++ expanded m f fuel rest
  | fuel + 1, '\\' :: c :: r =>
    if c.isDigit then
      let ds := (c :: r).takeWhile Char.isDigit |>.take 2
      (f.group? (Text.ofDigits 10 ds)).getD [] ++ expanded m f fuel ((c :: r).drop ds.length)
    else
      let d := (("ntr\\".toList.zip ['\n', '\t', '\x0d', '\\']).lookup c)
      (match d with
        | some d => [d]
        | none => ['\\', c]) ++ expanded m f fuel r
  | fuel + 1, c :: r => c :: expanded m f fuel r

/-- A text with others in place of matches, and how many there were. -/
def replaced (call : Call) (m : Matcher) (new : Value) (most : Nat) (s : List Char) :
    Run (List Char × Nat) := do
  let all := allIn m s
  let found := if most = 0 then all else all.take most
  let mut done : List (List Char) := []
  let mut last := 0
  for f in found do
    let piece ← match new with
      | .text t | .bytes t => pure (expanded m f (t.length + 1) t)
      | g => do
        let v ← call g (.one (← newObject (.found m s f)))
        charsOf v
    done := piece :: (s.take f.first.index).drop last :: done
    last := f.last.index
  return ((s.drop last :: done).reverse.flatten, found.length)

/-- The pieces between matches, and the groups of these. -/
def divided (make : List Char → Value) (m : Matcher) (most : Nat) (s : List Char) : List Value :=
  let all := allIn m s
  let found := if most = 0 then all else all.take most
  let (pieces, last) := found.foldl (fun (done, last) f =>
    let groups := (List.range m.groups).map fun i => match f.group? (i + 1) with
      | some t => make t
      | none => .none
    (done ++ make ((s.take f.first.index).drop last) :: groups, f.last.index)) ([], 0)
  pieces ++ [make (s.drop last)]

/-- A text whose characters mean themselves. -/
def escaped (s : List Char) : List Char :=
  s.flatMap fun c =>
    if c.isAlphanum || c = '_' || 127 < c.toNat || "!\"%',/:;<=>@`".toList.contains c then [c]
    else ['\\', c]

/-- Use an expression. The value it is used on comes first. -/
def use (call : Call) (m : Matcher) (pattern : List Char) (name : String) (g : Given) :
    Run Value := do
  let place (f : Option Match) (s : List Char) : Run Value := do
    match f with
    | some f => newObject (.found m s f)
    | none => return .none
  let make (v : Value) (s : List Char) : Value := match v with
    | .bytes _ => .bytes s
    | _ => .text s
  let number (n : Nat) (key : String) : Run Nat := do
    match g.get? n key with
    | some v => return (← wholeOf v).toNat
    | none => return 0
  let subject (n : Nat) : Run (Value × List Char) := do
    let v ← g.need name n "string"
    match v with
    | .text s | .bytes s => return (v, s)
    | v =>
      raise "TypeError" ("expected string or bytes-like object, got '" ++ v.kindName (← heap)
        ++ "'")
  match name with
  | "match" =>
    let (_, s) ← subject 0
    place (m.matchAt? (.start s)) s
  | "search" =>
    let (_, s) ← subject 0
    place (m.find? s) s
  | "fullmatch" =>
    let (_, s) ← subject 0
    let whole := (Regex.ends m.options m.expression (.start s)).find? fun q => q.rest.isEmpty
    place (whole.map fun q => ⟨.start s, q⟩) s
  | "findall" =>
    let (v, s) ← subject 0
    newList ((allIn m s).map (foundValue (make v) m))
  | "finditer" =>
    let (_, s) ← subject 0
    newObject (.iterator (← (allIn m s).mapM fun f => newObject (.found m s f)))
  | "sub" | "subn" =>
    let (v, s) ← subject 1
    let (t, n) ← replaced call m (← g.need name 0 "repl") (← number 2 "count") s
    return if name = "sub" then make v t else .tuple [make v t, .int (n : Nat)]
  | "split" =>
    let (v, s) ← subject 0
    newList (divided (make v) m (← number 1 "maxsplit") s)
  | _ => newObject (.pattern m pattern)

/-- What the module does. -/
def callModule (call : Call) (name : String) (g : Given) : Run Value := do
  let v ← g.need name 0 "pattern"
  if name = "escape" then return .text (escaped (← charsOf v))
  let place := if name = "sub" || name = "subn" then 4 else if name = "split" then 3
    else if name = "compile" then 1 else 2
  let flags ← match g.get? place "flags" with
    | some f => wholeOf f
    | none => pure 0
  let (m, s) ← patternOf v flags
  use call m s name { g with values := g.values.drop 1 }

end SvgSkeleton.Shell.Interpreter.SearchModule
