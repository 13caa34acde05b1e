import SvgSkeleton.Shell.Pattern

/-!
Regular expressions. The ends that an expression can reach from a position are listed in order of
preference: a greedy repetition lists those of more rounds first, an alternative those of its first
branch. A search takes the first end of the first position that has one, or the farthest one.
-/

namespace SvgSkeleton.Shell

/-- What holds at a position without taking a character. -/
inductive Anchor where
  | textStart
  | textEnd
  /-- The end, or in front of a line feed at the end. -/
  | lastLineEnd
  | lineStart
  | lineEnd
  | wordStart
  | wordEnd
  | wordEdge
  | notWordEdge
  deriving DecidableEq

/-- How many rounds a repetition prefers. -/
inductive Greed where
  | most
  | fewest
  /-- The most, and no others are tried. -/
  | fixed
  deriving DecidableEq

inductive Regex where
  | empty
  | char (c : Char)
  | any
  | set (negated : Bool) (items : List SetItem)
  | anchor (a : Anchor)
  | group (n : Nat) (e : Regex)
  | back (n : Nat)
  | seq (a b : Regex)
  | alt (a b : Regex)
  /-- From `least` to `most` times, or more if there is no `most`. -/
  | repeat (least : Nat) (most : Option Nat) (greed : Greed) (e : Regex)
  /-- The expression is followed from here, or it is not; nothing is taken. -/
  | ahead (negated : Bool) (e : Regex)
  /-- The expression, which has one of some lengths, ends here, or it does not. -/
  | behind (negated : Bool) (lengths : List Nat) (e : Regex)
  /-- Only the first end is tried. -/
  | atomic (e : Regex)
  /-- What was taken so far does not count. -/
  | keep
  /-- Are upper and lower case the same in the expression? -/
  | inCase (same : Bool) (e : Regex)
  deriving Inhabited

namespace Regex

/-! ### Positions -/

/-- A position in a text: what stands before it, turned around, what follows it, how far it is from
the start, what the groups have matched, and where the match begins if not where its search did. -/
structure Position where
  passed : Bytes
  rest : Bytes
  index : Nat
  groups : List (Nat × Bytes)
  kept : Option Nat

namespace Position

/-- The start of a text. -/
def start (text : Bytes) : Position := ⟨[], text, 0, [], none⟩

def isWordChar (c : Option Char) : Bool := c.any isNameChar

/-- The position behind the next character. -/
def next (p : Position) : Position :=
  match p.rest with
  | [] => p
  | c :: r => { p with passed := c :: p.passed, rest := r, index := p.index + 1 }

/-- The position some characters on. -/
def skip : Nat → Position → Position
  | 0, p => p
  | n + 1, p => skip n p.next

/-- The position some characters before. -/
def back (n : Nat) (p : Position) : Position :=
  let taken := p.passed.take n
  { p with passed := p.passed.drop n, rest := taken.reverse ++ p.rest
           index := p.index - taken.length }

/-- The position without what the groups have matched. -/
def cleared (p : Position) : Position := { p with groups := [], kept := none }

end Position

/-- Does it hold at a position? -/
def holdsAt (p : Position) : Anchor → Bool
  | .textStart => p.passed.isEmpty
  | .textEnd => p.rest.isEmpty
  | .lastLineEnd => p.rest.isEmpty || p.rest = ['\n']
  | .lineStart => p.passed.head?.all (· == '\n')
  | .lineEnd => p.rest.head?.all (· == '\n')
  | .wordStart =>
    !Position.isWordChar p.passed.head? && Position.isWordChar p.rest.head?
  | .wordEnd => Position.isWordChar p.passed.head? && !Position.isWordChar p.rest.head?
  | .wordEdge => Position.isWordChar p.passed.head? != Position.isWordChar p.rest.head?
  | .notWordEdge => Position.isWordChar p.passed.head? == Position.isWordChar p.rest.head?

/-! ### Matching -/

/-- What matching depends on besides the expression. -/
structure Options where
  /-- Upper and lower case are the same. -/
  ignoreCase : Bool
  /-- Ends that are equally far differ if their groups do. -/
  exact : Bool
  /-- The farthest end is taken, not the first one. -/
  longest : Bool

def sameChar (ignoreCase : Bool) (c d : Char) : Bool :=
  c == d || (ignoreCase && c.toLower == d.toLower)

/-- Does an expression of a single character match it? -/
def accepts (ignoreCase : Bool) (e : Regex) (c : Char) : Option Bool :=
  match e with
  | .char d => some (sameChar ignoreCase c d)
  | .any => some true
  | .set negated items =>
    let found := items.any (·.contains c)
      || (ignoreCase && (items.any (·.contains c.toLower) || items.any (·.contains c.toUpper)))
    some (found != negated)
  | _ => none

/-- The positions without those that an earlier one has reached already. -/
def distinct (o : Options) (ps : List Position) : List Position :=
  match ps with
  | [] | [_] => ps
  | ps =>
    if o.exact then
      (ps.foldl (fun kept p =>
        if kept.any fun q => q.index == p.index && q.groups == p.groups then kept
        else p :: kept) ([] : List Position)).reverse
    else
      (ps.foldl (fun (seen, kept) p =>
        if seen.testBit p.index then (seen, kept) else (seen ||| 1 <<< p.index, p :: kept))
        (0, ([] : List Position))).2.reverse

/-- The positions behind characters that are accepted, the farthest first, in front of others. -/
def walk (accept : Char → Bool) : Option Nat → Nat → Bytes → Position → List Position →
    List Position
  | most, least, c :: r, p, found =>
    let found := if least = 0 then p :: found else found
    if most = some 0 then found
    else if accept c then walk accept (most.map (· - 1)) (least - 1) r p.next found
    else found
  | _, least, [], p, found => if least = 0 then p :: found else found

/-- The positions that have been reached, the latest first, and a bit for each of them. -/
structure Reached where
  seen : Nat
  found : List Position

/-- Reach what any number of rounds reach, each position once. `left` is how many rounds there may
be, `width` one more than their greatest number. -/
def explore (step : Position → List Position) (o : Options) (fewest : Bool) (width : Nat) :
    Nat → Option Nat → Reached → Position → Reached
  | 0, _, w, p => { w with found := p :: w.found }
  | fuel + 1, left, w, p =>
    let bit := 1 <<< (p.index * width + left.getD 0)
    if !o.exact && w.seen &&& bit != 0 then w
    else
      let w := { w with seen := w.seen ||| bit }
      let w := if fewest then { w with found := p :: w.found } else w
      let w := if left = some 0 then w
        else (step p).foldl (fun w q =>
          if q.index = p.index then w
          else explore step o fewest width fuel (left.map (· - 1)) w q) w
      if fewest then w else { w with found := p :: w.found }

/-- The positions after so many rounds. -/
def stepTimes (step : Position → List Position) (o : Options) : Nat → List Position →
    List Position
  | 0, ps => ps
  | n + 1, ps =>
    let qs := distinct o (ps.flatMap step)
    if qs.all (fun q => ps.any (·.index == q.index)) && n > ps.length then qs
    else stepTimes step o n qs

/-- The positions that rounds reach, from `least` to `most` of them. -/
def rounds (step : Position → List Position) (o : Options) (least : Nat) (most : Option Nat)
    (greed : Greed) (p : Position) : List Position :=
  let first := stepTimes step o least [p]
  let left := most.map (· - least)
  if left = some 0 then first
  else
    let width := (left.getD 0) + 1
    (first.foldl (fun w q => explore step o (greed == .fewest) width (q.rest.length + 2) left w q)
      ⟨0, []⟩).found.reverse

/-- The positions that an expression can reach from a position, those that are preferred first. -/
def ends : Options → Regex → Position → List Position
  | _, .empty, p => [p]
  | o, .seq a b, p => distinct o ((ends o a p).flatMap (ends o b))
  | o, .alt a b, p => distinct o (ends o a p ++ ends o b p)
  | o, .group n e, p =>
    (ends o e p).map fun q =>
      { q with groups := (n, p.rest.take (q.index - p.index)) :: q.groups.filter (·.1 != n) }
  | o, .back n, p =>
    match p.groups.lookup n with
    | none => []
    | some text =>
      let there := p.rest.take text.length
      if there.length = text.length && (there.zip text).all fun (c, d) => sameChar o.ignoreCase c d
      then [p.skip text.length] else []
  | o, .repeat least most greed e, p =>
    let found := match accepts o.ignoreCase e ' ' with
      | some _ =>
        let run := walk (fun c => (accepts o.ignoreCase e c).getD false) most least p.rest p []
        if greed = .fewest then run.reverse else run
      | none => rounds (ends o e) o least most greed p
    if greed = .fixed then found.take 1 else found
  | o, .ahead negated e, p =>
    match ends o e p, negated with
    | [], true => [p]
    | q :: _, false => [{ p with groups := q.groups }]
    | _, _ => []
  | o, .behind negated lengths e, p =>
    let found := lengths.flatMap fun n =>
      if n ≤ p.index then (ends o e (p.back n)).filter (·.index == p.index) else []
    match found, negated with
    | [], true => [p]
    | q :: _, false => [{ p with groups := q.groups }]
    | _, _ => []
  | o, .atomic e, p => (ends o e p).take 1
  | _, .keep, p => [{ p with kept := some p.index }]
  | o, .inCase same e, p => ends { o with ignoreCase := same } e p
  | _, .anchor a, p => if holdsAt p a then [p] else []
  | o, e, p =>
    match p.rest with
    | c :: _ => if (accepts o.ignoreCase e c).getD false then [p.next] else []
    | [] => []

/-- The farthest of some ends; the first of those that are equally far. -/
def farthest (ps : List Position) : Option Position :=
  ps.foldl (fun best p =>
    match best with
    | none => some p
    | some b => if b.index < p.index then some p else best) none

/-- Does an expression refer to what a group has matched? -/
def refers : Regex → Bool
  | .back _ => true
  | .seq a b | .alt a b => a.refers || b.refers
  | .group _ e | .repeat _ _ _ e | .ahead _ e | .behind _ _ e | .atomic e | .inCase _ e =>
    e.refers
  | _ => false

/-- The lengths of what an expression matches, if there are only some. -/
def lengths? : Regex → Option (List Nat)
  | .empty | .anchor _ | .ahead .. | .behind .. | .keep => some [0]
  | .char _ | .any | .set .. => some [1]
  | .group _ e | .atomic e | .inCase _ e => e.lengths?
  | .back _ => none
  | .seq a b => do
    let xs ← a.lengths?
    let ys ← b.lengths?
    return (xs.flatMap fun x => ys.map (x + ·)).eraseDups
  | .alt a b => do return ((← a.lengths?) ++ (← b.lengths?)).eraseDups
  | .repeat least most _ e =>
    match e.lengths? with
    | some [n] => if most = some least then some [n * least] else none
    | _ => none

/-- The expression that matches a text as it is. -/
def literally (s : Bytes) : Regex := s.foldr (fun c e => .seq (.char c) e) .empty

end Regex

/-! ### Searching -/

/-- A match: where it begins and where it ends. -/
structure Match where
  first : Regex.Position
  last : Regex.Position

namespace Match

/-- What was matched. -/
def text (m : Match) : Bytes := m.first.rest.take (m.last.index - m.first.index)

def isEmpty (m : Match) : Bool := m.first.index == m.last.index

/-- What a group has matched, or all of it. -/
def group? (m : Match) (n : Nat) : Option Bytes :=
  if n = 0 then some m.text else m.last.groups.lookup n

end Match

/-- An expression that is ready to be searched for. -/
structure Matcher where
  expression : Regex
  options : Regex.Options
  /-- How many groups it has. -/
  groups : Nat
  /-- The names of groups. -/
  names : List (Bytes × Nat)

namespace Matcher

/-- An expression of which the farthest end is taken. -/
def ofPosix (e : Regex) (groups : Nat) (ignoreCase : Bool) : Matcher :=
  ⟨e, ⟨ignoreCase, e.refers, true⟩, groups, []⟩

/-- An expression of which the first end is taken. -/
def ofPerl (e : Regex) (groups : Nat) (names : List (Bytes × Nat)) (ignoreCase : Bool) : Matcher :=
  ⟨e, ⟨ignoreCase, e.refers, false⟩, groups, names⟩

/-- The matcher with another expression for the one it has. -/
def map (f : Regex → Regex) (m : Matcher) : Matcher := { m with expression := f m.expression }

/-- The match that begins at a position. -/
def matchAt? (m : Matcher) (p : Regex.Position) : Option Match :=
  let found := Regex.ends m.options m.expression p
  let last := if m.options.longest then Regex.farthest found else found.head?
  last.map fun q =>
    match q.kept with
    | some k => ⟨p.skip (k - p.index), q⟩
    | none => ⟨p, q⟩

/-- The first match at a position or behind it. -/
def searchFrom (m : Matcher) : Nat → Regex.Position → Option Match
  | 0, _ => none
  | fuel + 1, p =>
    match m.matchAt? p with
    | some found => some found
    | none => if p.rest.isEmpty then none else m.searchFrom fuel p.next

/-- The first match at a position or behind it. -/
def search? (m : Matcher) (p : Regex.Position) : Option Match :=
  m.searchFrom (p.rest.length + 1) p

/-- The first match in a text. -/
def find? (m : Matcher) (text : Bytes) : Option Match := m.search? (.start text)

def isMatch (m : Matcher) (text : Bytes) : Bool := (m.find? text).isSome

/-- Is there a match that is all of a text? -/
def matchesAll (m : Matcher) (text : Bytes) : Bool :=
  (Regex.ends m.options m.expression (.start text)).any (·.rest.isEmpty)

/-- The matches in a text from a position on, from left to right. An empty one does not touch the
one before it. -/
def matchesFrom (m : Matcher) : Nat → Bool → Regex.Position → List Match
  | 0, _, _ => []
  | fuel + 1, touching, p =>
    match m.search? p with
    | none => []
    | some found =>
      let rest (touching : Bool) (q : Regex.Position) : List Match :=
        m.matchesFrom fuel touching q.cleared
      if !found.isEmpty then found :: rest true found.last
      else
        let here := if touching && found.last.index == p.index then [] else [found]
        if found.last.rest.isEmpty then here else here ++ rest false found.last.next

/-- All matches in a text. -/
def findAll (m : Matcher) (text : Bytes) : List Match :=
  m.matchesFrom (2 * text.length + 2) false (.start text)

end Matcher
end SvgSkeleton.Shell
