import SvgSkeleton.Text.Character

/-!
Moments as a TOML file writes them: a date, a time of day, or a date with a time of day, behind
which the difference from universal time may stand.
-/

namespace SvgSkeleton.Config.Toml

structure Date where
  year : Nat
  month : Nat
  day : Nat
  deriving DecidableEq, Repr

/-- A time of day. The fraction of the second is given by its digits, of which the last is not a
zero. -/
structure Clock where
  hour : Nat
  minute : Nat
  second : Nat
  fraction : List Char
  deriving DecidableEq, Repr

/-- How far a time is from universal time: none at all, or so many minutes ahead or behind. -/
inductive Offset where
  | universal
  | ahead (minutes : Nat)
  | behind (minutes : Nat)
  deriving DecidableEq, Repr

inductive Moment where
  | date (date : Date)
  | clock (clock : Clock)
  | both (date : Date) (clock : Clock) (offset : Option Offset)
  deriving DecidableEq, Repr

/-! ### Reading -/

/-- The number from `low` to `high` that exactly `count` digits write, and what follows them. -/
def figure (count low high : Nat) (s : List Char) : Option (Nat × List Char) :=
  let digits := s.take count
  let n := Text.ofDigits 10 digits
  if digits.length = count ∧ digits.all Char.isDigit ∧ low ≤ n ∧ n ≤ high then
    some (n, s.drop count)
  else none

/-- What follows a character. -/
def behind (c : Char) : List Char → Option (List Char)
  | d :: r => if d = c then some r else none
  | [] => none

def isLeapYear (year : Nat) : Bool := year % 4 = 0 && (year % 100 != 0 || year % 400 = 0)

def daysIn (year month : Nat) : Nat :=
  if month = 2 then if isLeapYear year then 29 else 28
  else if month = 4 ∨ month = 6 ∨ month = 9 ∨ month = 11 then 30
  else 31

/-- A date, and what follows it. -/
def Date.read? (s : List Char) : Option (Date × List Char) := do
  let (year, s) ← figure 4 0 9999 s
  let (month, s) ← figure 2 1 12 (← behind '-' s)
  let (day, s) ← figure 2 1 (daysIn year month) (← behind '-' s)
  return (⟨year, month, day⟩, s)

/-- How many digits of a fraction count. -/
def fractionDigits : Nat := 9

/-- The digits of a fraction, and what follows them. -/
def fractionOf (s : List Char) : List Char × List Char :=
  match s with
  | '.' :: r =>
    match r.takeWhile Char.isDigit with
    | [] => ([], s)
    | digits =>
      (((digits.take fractionDigits).reverse.dropWhile (· = '0')).reverse,
        r.dropWhile Char.isDigit)
  | _ => ([], s)

/-- A time of day, which may be a leap second, and what follows it. -/
def Clock.read? (s : List Char) : Option (Clock × List Char) := do
  let (hour, s) ← figure 2 0 23 s
  let (minute, s) ← figure 2 0 59 (← behind ':' s)
  let (second, s) ← figure 2 0 60 (← behind ':' s)
  let (fraction, s) := fractionOf s
  return (⟨hour, minute, second, fraction⟩, s)

/-- Hours and minutes, as minutes. -/
def minutes? (s : List Char) : Option Nat := do
  let (hours, s) ← figure 2 0 23 s
  let (minutes, s) ← figure 2 0 59 (← behind ':' s)
  if s.isEmpty then some (hours * 60 + minutes) else none

def Offset.ofText? : List Char → Option Offset
  | ['Z'] | ['z'] => some .universal
  | '+' :: r => (minutes? r).map .ahead
  | '-' :: r => (minutes? r).map .behind
  | _ => none

/-- The time of day behind a date. -/
def Moment.withClock? (d : Date) (s : List Char) : Option Moment := do
  let (c, s) ← Clock.read? s
  if s.isEmpty then return .both d c none
  return .both d c (some (← Offset.ofText? s))

def Moment.ofText? (s : List Char) : Option Moment :=
  match Date.read? s, Clock.read? s with
  | some (d, []), _ => some (.date d)
  | some (d, c :: r), _ => if c = 'T' ∨ c = 't' ∨ c = ' ' then withClock? d r else none
  | none, some (c, []) => some (.clock c)
  | none, _ => none

/-! ### Writing -/

/-- A number with zeros in front of it, so that it has at least `width` digits. -/
def padded (width n : Nat) : String :=
  let digits := Nat.toDigits 10 n
  String.ofList (List.replicate (width - digits.length) '0' ++ digits)

def Date.text (d : Date) : String :=
  padded 4 d.year ++ "-" ++ padded 2 d.month ++ "-" ++ padded 2 d.day

def Clock.text (c : Clock) : String :=
  padded 2 c.hour ++ ":" ++ padded 2 c.minute ++ ":" ++ padded 2 c.second
    ++ if c.fraction.isEmpty then "" else "." ++ String.ofList c.fraction

/-- Minutes as hours and minutes. -/
def minutesText (n : Nat) : String := padded 2 (n / 60) ++ ":" ++ padded 2 (n % 60)

/-- A difference in short form; no minutes behind are no minutes ahead. -/
def Offset.text : Offset → String
  | .universal => "Z"
  | .ahead n => "+" ++ minutesText n
  | .behind n => (if n = 0 then "+" else "-") ++ minutesText n

def Moment.text : Moment → String
  | .date d => d.text
  | .clock c => c.text
  | .both d c offset => d.text ++ "T" ++ c.text ++ (offset.map Offset.text).getD ""

end SvgSkeleton.Config.Toml
