import SvgSkeleton.Shell.Regex

/-!
The regular expressions of `awk`: extended ones, in which a backslash begins an escape even within
brackets.
-/

namespace SvgSkeleton.Shell.Awk

/-- Why a text is no expression. -/
inductive PatternFault where
  | openGroup
  | closedGroup
  | openSet
  | nothingRepeated
  | tooGreat
  deriving DecidableEq

def PatternFault.message : PatternFault → String
  | .openGroup => "missing ')'"
  | .closedGroup => "missing '('"
  | .openSet => "bad class -- [], [^] or ["
  | .nothingRepeated => "missing operand"
  | .tooGreat => "too complex"

namespace Pattern

/-- The characters that letters behind a backslash mean. -/
def letters : List (Char × Char) :=
  [('n', '\n'), ('t', '\t'), ('f', '\x0c'), ('b', '\x08'), ('r', '\r'), ('a', '\x07'),
   ('v', '\x0b')]

def isOctal (c : Char) : Bool := '0' ≤ c && c ≤ '7'

/-- The character that is meant behind a backslash, and what follows. -/
def escaped : Bytes → Char × Bytes
  | [] => ('\\', [])
  | 'x' :: r =>
    let digits := (r.take 2).takeWhile fun c => (Text.hexValue c).isSome
    if digits.isEmpty then ('x', r)
    else
      (Char.ofNat (digits.foldl (fun n c => n * 16 + (Text.hexValue c).getD 0) 0),
        r.drop digits.length)
  | c :: r =>
    let digits := ((c :: r).take 3).takeWhile isOctal
    if !digits.isEmpty then
      (Char.ofNat (Text.ofDigits 8 digits % 256), (c :: r).drop digits.length)
    else ((letters.lookup c).getD c, r)

/-- A character of a set, and what follows. -/
def member : Bytes → Char × Bytes
  | '\\' :: r => escaped r
  | c :: r => (c, r)
  | [] => ('\x00', [])

/-- The name of a class in brackets of its own, and what follows. -/
def className? (s : Bytes) : Option (Bytes × Bytes) :=
  match s with
  | '[' :: ':' :: r =>
    let name := r.takeWhile Char.isAlpha
    match r.drop name.length with
    | ':' :: ']' :: r => some (name, r)
    | _ => none
  | _ => none

/-- The members of a set up to its end, and what follows. A bracket that comes first is a member. -/
def members (first : Bool) : Nat → Bytes → Except PatternFault (List SetItem × Bytes)
  | 0, _ => .error .openSet
  | fuel + 1, s =>
    match s with
    | [] => .error .openSet
    | c :: r =>
      if c = ']' && !first then .ok ([], r)
      else
        match className? s with
        | some (name, r) => do
          let (items, r) ← members false fuel r
          return (.named name :: items, r)
        | none => do
          let (low, r) := member s
          match r with
          | '-' :: d :: r' =>
            if d = ']' then
              let (items, r) ← members false fuel r
              return (.range low low :: items, r)
            else
              let (high, r) := member (d :: r')
              let (items, r) ← members false fuel r
              return (.range low high :: items, r)
          | r =>
            let (items, r) ← members false fuel r
            return (.range low low :: items, r)

/-- How often something is to be, if numbers in braces follow. -/
def bounds? (s : Bytes) : Option (Nat × Option Nat × Bytes) :=
  let low := s.takeWhile Char.isDigit
  if low.isEmpty then none
  else
    match s.drop low.length with
    | '}' :: r => some (Text.ofDigits 10 low, some (Text.ofDigits 10 low), r)
    | ',' :: r =>
      let high := r.takeWhile Char.isDigit
      match r.drop high.length with
      | '}' :: r =>
        some (Text.ofDigits 10 low, if high.isEmpty then none else some (Text.ofDigits 10 high), r)
      | _ => none
    | _ => none

/-- What has been read: the expression, how many groups there have been, and what follows. -/
abbrev Found := Except PatternFault (Regex × Nat × Bytes)

/-- The expression with the repetitions that follow it. -/
def repeated : Nat → Regex → Bytes → Regex × Bytes
  | 0, e, s => (e, s)
  | fuel + 1, e, s =>
    match s with
    | '*' :: r => repeated fuel (.repeat 0 none .most e) r
    | '+' :: r => repeated fuel (.repeat 1 none .most e) r
    | '?' :: r => repeated fuel (.repeat 0 (some 1) .most e) r
    | '\x7b' :: r =>
      match bounds? r with
      | some (low, high, r) => repeated fuel (.repeat low high .most e) r
      | none => (e, s)
    | s => (e, s)

mutual

/-- Read alternatives. -/
def alternatives (nested : Bool) : Nat → Nat → Bytes → Found
  | 0, _, _ => .error .tooGreat
  | fuel + 1, groups, s => do
    let (a, groups, s) ← sequence nested fuel true groups s
    match s with
    | '|' :: r =>
      let (b, groups, s) ← alternatives nested fuel groups r
      return (.alt a b, groups, s)
    | s => return (a, groups, s)

/-- Read one piece after the other. -/
def sequence (nested : Bool) : Nat → Bool → Nat → Bytes → Found
  | 0, _, _, _ => .error .tooGreat
  | fuel + 1, first, groups, s =>
    match s with
    | [] => .ok (.empty, groups, [])
    | '|' :: _ => .ok (.empty, groups, s)
    | ')' :: r =>
      if nested then .ok (.empty, groups, ')' :: r) else .error .closedGroup
    | s => do
      let (a, groups, s) ← single fuel first groups s
      let (a, s) := repeated s.length a s
      let (b, groups, s) ← sequence nested fuel false groups s
      return (.seq a b, groups, s)

/-- Read a single piece. -/
def single : Nat → Bool → Nat → Bytes → Found
  | 0, _, _, _ => .error .tooGreat
  | fuel + 1, first, groups, s =>
    match s with
    | [] => .ok (.empty, groups, [])
    | '(' :: ')' :: r => .ok (.empty, groups + 1, r)
    | '(' :: r => do
      let (e, groups, s) ← alternatives true fuel groups r
      match s with
      | ')' :: r => return (e, groups + 1, r)
      | _ => .error .openGroup
    | '.' :: r => .ok (.any, groups, r)
    | '^' :: r => .ok (.anchor .textStart, groups, r)
    | '$' :: r => .ok (.anchor .textEnd, groups, r)
    | '[' :: '^' :: r => do
      let (items, r) ← members true (r.length + 1) r
      return (.set true items, groups, r)
    | '[' :: r => do
      let (items, r) ← members true (r.length + 1) r
      return (.set false items, groups, r)
    | '\\' :: r =>
      let (c, r) := escaped r
      .ok (.char c, groups, r)
    | c :: r =>
      if first && (c = '*' || c = '+' || c = '?') then .error .nothingRepeated
      else .ok (.char c, groups, r)

end

end Pattern

/-- What searches for the expression that a text writes. -/
def matcher? (s : Bytes) : Except PatternFault Matcher :=
  (Pattern.alternatives false (6 * s.length + 16) 0 s).map fun (e, groups, _) =>
    Matcher.ofPosix e groups false

end SvgSkeleton.Shell.Awk
