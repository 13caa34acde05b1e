import SvgSkeleton.Shell.Utility.Interpreter.Format
import SvgSkeleton.Shell.Utility.Interpreter.State

/-!
What texts and bytes can do. Both are rows of characters, and most of it is the same for both.
-/

namespace SvgSkeleton.Shell.Interpreter.TextMethod

def isBlank (c : Char) : Bool :=
  c == ' ' || (9 ≤ c.toNat && c.toNat ≤ 13) || (28 ≤ c.toNat && c.toNat ≤ 31) || c.toNat == 0x85
    || c.toNat == 0xa0

/-- Pieces between blanks, at most some of them; what is left is one more. -/
def words : Nat → Option Nat → List Char → List (List Char)
  | 0, _, _ => []
  | fuel + 1, most, s =>
    let s := s.dropWhile isBlank
    if s.isEmpty then []
    else if most = some 0 then [(s.reverse.dropWhile isBlank).reverse]
    else
      let w := s.takeWhile (!isBlank ·)
      w :: words fuel (most.map (· - 1)) (s.drop w.length)

/-- Where a piece is found in a text first. -/
def find? (piece : List Char) : Nat → List Char → Option Nat
  | i, s =>
    if piece.isPrefixOf s then some i
    else match s with
      | [] => none
      | _ :: r => find? piece (i + 1) r

/-- Pieces between separators, at most some of them; what is left is one more. -/
def pieces (mark : List Char) : Nat → Option Nat → List Char → List (List Char)
  | 0, _, s => [s]
  | fuel + 1, most, s =>
    if most = some 0 then [s]
    else
      match find? mark 0 s with
      | none => [s]
      | some i => s.take i :: pieces mark fuel (most.map (· - 1)) (s.drop (i + mark.length))

/-- The text with a piece in place of another one. -/
def replaced (old new : List Char) (most : Option Nat) (s : List Char) : List Char :=
  if old.isEmpty then
    let n := most.getD (s.length + 1)
    let (front, rest) := (s.take n, s.drop n)
    front.flatMap (fun c => new ++ [c]) ++ (if s.length < n then new else []) ++ rest
  else List.intercalate new (pieces old (s.length + 1) most s)

/-- The last place where a piece is found. -/
def findLast? (piece s : List Char) : Option Nat :=
  (find? piece.reverse 0 s.reverse).map fun i => s.length - i - piece.length

/-- How often a piece is found in a text, without overlaps. -/
def count (piece s : List Char) : Nat :=
  if piece.isEmpty then s.length + 1
  else (pieces piece (s.length + 1) none s).length - 1

/-- The lines of a text. -/
def lines (keep : Bool) : Nat → List Char → List (List Char)
  | 0, _ => []
  | _ + 1, [] => []
  | fuel + 1, s =>
    let body := s.takeWhile fun c => c != '\n' && c != '\x0d'
    let rest := s.drop body.length
    let ending := match rest with
      | '\x0d' :: '\n' :: _ => rest.take 2
      | rest => rest.take 1
    (if keep then body ++ ending else body) :: lines keep fuel (rest.drop ending.length)

def isCased (c : Char) : Bool := c.isUpper || c.isLower

/-- A text whose words begin with great letters. -/
def titled : Bool → List Char → List Char
  | _, [] => []
  | inside, c :: s =>
    (if inside then c.toLower else c.toUpper) :: titled (isCased c) s

def swapped (c : Char) : Char := if c.isUpper then c.toLower else c.toUpper

def stripped (isExtra : Char → Bool) (left right : Bool) (s : List Char) : List Char :=
  let s := if left then s.dropWhile isExtra else s
  if right then (s.reverse.dropWhile isExtra).reverse else s

/-- The text with blanks in place of tabs. -/
def expanded (size : Nat) : Nat → List Char → List Char
  | _, [] => []
  | column, '\t' :: s =>
    let n := if size = 0 then 0 else size - column % size
    List.replicate n ' ' ++ expanded size (column + n) s
  | column, c :: s =>
    c :: expanded size (if c = '\n' || c = '\x0d' then 0 else column + 1) s

/-- A part of a text from one place to another, if they are given. -/
def partOf (g : Given) (n : Nat) (s : List Char) : Run (Nat × List Char) := do
  let at' (n : Nat) (usual : Nat) : Run Nat := do
    match g.some? n "" with
    | some v => return clamped s.length (← wholeOf v)
    | none => return usual
  let first ← at' n 0
  let last ← at' (n + 1) s.length
  return (first, (s.take last).drop first)

/-- A text in the middle, with others around it. -/
def centered (width : Nat) (fill : Char) (s : List Char) : List Char :=
  let missing := width - s.length
  let left := missing / 2 + (if missing % 2 = 1 && width % 2 = 1 then 1 else 0)
  List.replicate left fill ++ s ++ List.replicate (missing - left) fill

/-- The width that a method is given. -/
def widthOf (g : Given) (name : String) : Run Nat := do
  let n := (← wholeOf (← g.need name 0 "width")).toNat
  needRoom n
  return n

/-- The number of a method in its place among values, if it is not negative. -/
def mostOf (g : Given) (n : Nat) (name : String) : Run (Option Nat) := do
  match g.get? n name with
  | none => return none
  | some v =>
    let k ← wholeOf v
    return if k < 0 then none else some k.toNat

/-- The names of the methods. -/
def names : List String :=
  ["upper", "lower", "strip", "lstrip", "rstrip", "split", "rsplit", "splitlines", "join",
   "replace", "startswith", "endswith", "find", "rfind", "index", "rindex", "count", "isdigit",
   "isalpha", "isalnum", "isspace", "isupper", "islower", "isnumeric", "isdecimal", "title",
   "capitalize", "swapcase", "zfill", "ljust", "rjust", "center", "partition", "rpartition",
   "casefold", "removeprefix", "removesuffix", "expandtabs", "isidentifier", "isascii", "istitle"]

/-- The names of those that only texts have, and that only bytes have. -/
def ownNames (isText : Bool) : List String :=
  if isText then ["encode", "format", "format_map", "translate"] else ["decode", "hex"]

/-- Does a text hold a letter, and only those of a case? -/
def allCased (wrong : Char → Bool) (s : List Char) : Bool := s.any isCased && !s.any wrong

/-- What a text or bytes do. -/
def call (isText : Bool) (s : List Char) (name : String) (g : Given) : Run Value := do
  let make (t : List Char) : Value := if isText then .text t else .bytes t
  let chars (n : Nat) (key : String) : Run (List Char) := do charsOf (← g.need name n key)
  let list (ts : List (List Char)) : Run Value := newList (ts.map make)
  let all (p : Char → Bool) : Value := .bool (!s.isEmpty && s.all p)
  let fillOf (n : Nat) : Run Char := do
    match g.get? n "" with
    | some v => return ((← charsOf v).head?).getD ' '
    | none => return ' '
  let found (place : Option Nat) (first : Nat) (strict : Bool) : Run Value := do
    match place with
    | some i => return .int (first + i : Nat)
    | none => if strict then raise "ValueError" "substring not found" else return .int (-1)
  let begins (front : Bool) : Run Value := do
    let (_, t) ← partOf g 1 s
    let fits (p : List Char) : Bool := if front then p.isPrefixOf t else p.isSuffixOf t
    match ← g.need name 0 "" with
    | .tuple vs => return .bool ((← vs.mapM charsOf).any fits)
    | v => return .bool (fits (← charsOf v))
  let extra : Run (Char → Bool) := do
    match g.some? 0 "chars" with
    | none => return isBlank
    | some v =>
      let cs ← charsOf v
      return fun c => cs.contains c
  match name with
  | "upper" => return make (s.map Char.toUpper)
  | "lower" | "casefold" => return make (s.map Char.toLower)
  | "strip" => return make (stripped (← extra) true true s)
  | "lstrip" => return make (stripped (← extra) true false s)
  | "rstrip" => return make (stripped (← extra) false true s)
  | "split" =>
    let most ← mostOf g 1 "maxsplit"
    match g.some? 0 "sep" with
    | none => list (words (s.length + 1) most s)
    | some v =>
      let mark ← charsOf v
      if mark.isEmpty then raise "ValueError" "empty separator"
      list (pieces mark (s.length + 1) most s)
  | "rsplit" =>
    let most ← mostOf g 1 "maxsplit"
    let turned (ts : List (List Char)) : List (List Char) := (ts.map List.reverse).reverse
    match g.some? 0 "sep" with
    | none => list (turned (words (s.length + 1) most s.reverse))
    | some v =>
      let mark ← charsOf v
      if mark.isEmpty then raise "ValueError" "empty separator"
      list (turned (pieces mark.reverse (s.length + 1) most s.reverse))
  | "splitlines" =>
    let keep ← match g.get? 0 "keepends" with
      | some v => truth v
      | none => pure false
    list (lines keep (s.length + 1) s)
  | "join" =>
    let parts ← (← itemsOf (← g.only name)).zipIdx.mapM fun (v, i) => do
      match v with
      | .text t => return t
      | .bytes t => return t
      | v => typeError ("sequence item " ++ toString i ++ ": expected str instance, ") v " found"
    return make (List.intercalate s parts)
  | "replace" =>
    return make (replaced (← chars 0 "old") (← chars 1 "new") (← mostOf g 2 "count") s)
  | "startswith" => begins true
  | "endswith" => begins false
  | "find" | "index" =>
    let (first, t) ← partOf g 1 s
    found (find? (← chars 0 "sub") 0 t) first (name == "index")
  | "rfind" | "rindex" =>
    let (first, t) ← partOf g 1 s
    found (findLast? (← chars 0 "sub") t) first (name == "rindex")
  | "count" =>
    let (_, t) ← partOf g 1 s
    return .int (count (← chars 0 "sub") t : Nat)
  | "isdigit" | "isnumeric" | "isdecimal" => return all Char.isDigit
  | "isalpha" => return all fun c => c.isAlpha || 0xc0 ≤ c.toNat
  | "isalnum" => return all fun c => c.isAlphanum || 0xc0 ≤ c.toNat
  | "isspace" => return all isBlank
  | "isascii" => return .bool (s.all fun c => c.toNat < 128)
  | "isidentifier" => return .bool (match s with
    | [] => false
    | c :: r => (c.isAlpha || c == '_') && r.all fun c => c.isAlphanum || c == '_')
  | "isupper" => return .bool (allCased Char.isLower s)
  | "islower" => return .bool (allCased Char.isUpper s)
  | "istitle" => return .bool (s.any isCased && titled false s == s)
  | "title" => return make (titled false s)
  | "capitalize" => return make (match s with
    | [] => []
    | c :: r => c.toUpper :: r.map Char.toLower)
  | "swapcase" => return make (s.map swapped)
  | "zfill" =>
    let width ← widthOf g name
    let sign := (s.take 1).takeWhile fun c => c == '+' || c == '-'
    return make (sign ++ List.replicate (width - s.length) '0' ++ s.drop sign.length)
  | "ljust" =>
    let width ← widthOf g name
    return make (s ++ List.replicate (width - s.length) (← fillOf 1))
  | "rjust" =>
    let width ← widthOf g name
    return make (List.replicate (width - s.length) (← fillOf 1) ++ s)
  | "center" =>
    let width ← widthOf g name
    return make (centered width (← fillOf 1) s)
  | "partition" =>
    let mark ← chars 0 "sep"
    match find? mark 0 s with
    | some i => return .tuple [make (s.take i), make mark, make (s.drop (i + mark.length))]
    | none => return .tuple [make s, make [], make []]
  | "rpartition" =>
    let mark ← chars 0 "sep"
    match findLast? mark s with
    | some i => return .tuple [make (s.take i), make mark, make (s.drop (i + mark.length))]
    | none => return .tuple [make [], make [], make s]
  | "removeprefix" =>
    let p ← chars 0 "prefix"
    return make (if p.isPrefixOf s then s.drop p.length else s)
  | "removesuffix" =>
    let p ← chars 0 "suffix"
    return make (if p.isSuffixOf s && !p.isEmpty then s.take (s.length - p.length) else s)
  | "expandtabs" =>
    let size := (← mostOf g 0 "tabsize").getD 8
    return make (expanded size 0 s)
  | "encode" => return .bytes (textBytes s)
  | "decode" => return .text (textOfBytes s)
  | "hex" => return .text (s.flatMap fun c => Value.hexDigits 2 c.toNat)
  | "translate" =>
    match ← objectOf? (← g.only name) with
    | some (.dict es) =>
      let h ← heap
      let one (c : Char) : List Char :=
        match Value.find (Value.equal h) (.int c.toNat) es with
        | none => [c]
        | some i => match (es.getD i (.none, .none)).2 with
          | .none => []
          | .int n => [Char.ofNat n.toNat]
          | v => v.toText h
      return .text (s.flatMap one)
    | _ => return .text s
  | name => raise "AttributeError" ("'str' object has no attribute '" ++ name ++ "'")

end SvgSkeleton.Shell.Interpreter.TextMethod
