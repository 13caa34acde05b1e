import SvgSkeleton.Shell.Bytes

/-!
Patterns with `*`, `?` and sets in brackets. A character that was quoted stands for itself.
-/

namespace SvgSkeleton.Shell

/-- A character and whether it was quoted. -/
abbrev Marked := Char × Bool

/-- A member of a set: a range of characters, or a class of them by name. -/
inductive SetItem where
  | range (low high : Char)
  | named (name : Bytes)
  deriving DecidableEq

namespace SetItem

/-- The classes of characters, by name. Only ASCII characters have a class. -/
def inClass (name : Bytes) (c : Char) : Bool :=
  let printable := 0x21 ≤ c.toNat && c.toNat ≤ 0x7E
  match String.ofList name with
  | "alpha" => c.isAlpha
  | "digit" => c.isDigit
  | "alnum" => c.isAlphanum
  | "upper" => c.isUpper
  | "lower" => c.isLower
  | "space" => c == ' ' || (9 ≤ c.toNat && c.toNat ≤ 13)
  | "blank" => c == ' ' || c == '\t'
  | "punct" => printable && !c.isAlphanum
  | "print" => printable || c == ' '
  | "graph" => printable
  | "cntrl" => c.toNat < 0x20 || c.toNat == 0x7F
  | "xdigit" => (Text.hexValue c).isSome
  | _ => false

def contains (item : SetItem) (c : Char) : Bool :=
  match item with
  | .range low high => low.toNat ≤ c.toNat && c.toNat ≤ high.toNat
  | .named name => inClass name c

end SetItem

/-- A piece of a pattern. -/
inductive Glob where
  | char (c : Char)
  | any
  | star
  | set (negated : Bool) (items : List SetItem)
  deriving DecidableEq

namespace Glob

/-- The name of a class between `[:` and `:]`, and what follows. -/
def className? (s : List Marked) : Option (Bytes × List Marked) :=
  let name := s.takeWhile fun m => m.1.isAlpha
  match s.drop name.length with
  | (':', _) :: (']', _) :: r => some (name.map (·.1), r)
  | _ => none

/-- The items of a set up to its closing bracket, which may not be the first of them, and what
follows. -/
def setItems (first : Bool) : Nat → List Marked → Option (List SetItem × List Marked)
  | 0, _ => none
  | fuel + 1, s =>
    match s with
    | [] => none
    | (c, quoted) :: r =>
      if c = ']' && !quoted && !first then some ([], r)
      else
        let inner : Option (SetItem × List Marked) :=
          match c, quoted, r with
          | '[', false, (':', false) :: r' =>
            match className? r' with
            | some (name, after) => some (.named name, after)
            | none => none
          | _, _, _ => none
        match inner, r with
        | some (item, after), _ =>
          (setItems false fuel after).map fun p => (item :: p.1, p.2)
        | none, ('-', false) :: (d, q) :: after =>
          if d = ']' && !q then (setItems false fuel r).map fun p => (.range c c :: p.1, p.2)
          else (setItems false fuel after).map fun p => (.range c d :: p.1, p.2)
        | none, _ => (setItems false fuel r).map fun p => (.range c c :: p.1, p.2)

/-- A set, from behind its opening bracket. -/
def set? (s : List Marked) : Option (Glob × List Marked) :=
  match s with
  | ('!', false) :: r =>
    (setItems true (r.length + 1) r).map fun p => (.set true p.1, p.2)
  | s => (setItems true (s.length + 1) s).map fun p => (.set false p.1, p.2)

/-- The pattern that marked characters form. -/
def ofMarked : Nat → List Marked → List Glob
  | 0, _ => []
  | _ + 1, [] => []
  | fuel + 1, (c, quoted) :: r =>
    if quoted then .char c :: ofMarked fuel r
    else
      match c with
      | '*' => .star :: ofMarked fuel r
      | '?' => .any :: ofMarked fuel r
      | '[' =>
        match set? r with
        | some (g, after) => g :: ofMarked fuel after
        | none => .char '[' :: ofMarked fuel r
      | '\\' =>
        match r with
        | (d, _) :: after => .char d :: ofMarked fuel after
        | [] => [.char '\\']
      | c => .char c :: ofMarked fuel r

/-- Does the piece match a single character? -/
def accepts (g : Glob) (c : Char) : Bool :=
  match g with
  | .char d => c == d
  | .any => true
  | .star => false
  | .set negated items => items.any (·.contains c) != negated

mutual

/-- Does the pattern match the whole string? -/
def matchesAll : List Glob → Bytes → Bool
  | [], s => s.isEmpty
  | .star :: g, s => matchesTail g s
  | p :: g, c :: s => p.accepts c && matchesAll g s
  | _ :: _, [] => false
termination_by g s => (g.length, s.length + 1)

/-- Does the pattern match the string or one of its tails? -/
def matchesTail (g : List Glob) (s : Bytes) : Bool :=
  matchesAll g s ||
    match s with
    | [] => false
    | _ :: r => matchesTail g r
termination_by (g.length, s.length + 2)

end

/-- The length of the beginning of a string that a pattern matches, the longest or the shortest. -/
def matchedLength? (g : List Glob) (longest : Bool) (s : Bytes) : Option Nat :=
  let lengths := List.range (s.length + 1)
  (if longest then lengths.reverse else lengths).find? fun n => matchesAll g (s.take n)

/-- The length of the end of a string that a pattern matches, the longest or the shortest. -/
def matchedSuffix? (g : List Glob) (longest : Bool) (s : Bytes) : Option Nat :=
  let lengths := List.range (s.length + 1)
  (if longest then lengths.reverse else lengths).find? fun n =>
    matchesAll g (s.drop (s.length - n))

end Glob

/-- The pattern of some marked characters. -/
def globOf (s : List Marked) : List Glob := Glob.ofMarked (s.length + 1) s

/-- A pattern in which a set may be negated by a circumflex as well. -/
def plainPattern : Bytes → List Marked
  | '\\' :: c :: r => ('\\', false) :: (c, false) :: plainPattern r
  | '[' :: '^' :: r => ('[', false) :: ('!', false) :: plainPattern r
  | c :: r => (c, false) :: plainPattern r
  | [] => []

/-- Does a pattern match a whole text? -/
def matchesPattern (pattern s : Bytes) : Bool := Glob.matchesAll (globOf (plainPattern pattern)) s

/-- Is there something in the characters that makes them a pattern? -/
def isPattern (s : List Marked) : Bool :=
  (globOf s).any fun g => match g with
    | .char _ => false
    | _ => true

end SvgSkeleton.Shell
