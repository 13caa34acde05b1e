import SvgSkeleton.Shell.Calendar

/-!
Phrases that mean moments: dates and times of day as people write them, words such as `tomorrow`
and `3 days ago`, and time zones. What a phrase leaves open is taken from the present.
-/

namespace SvgSkeleton.Shell.Calendar

/-! ### Words -/

/-- How much time a unit is. -/
inductive Measure where
  | years
  | months
  | days (count : Nat)
  | hours
  | minutes
  | seconds
  deriving DecidableEq

/-- A word or a number of a phrase, or a sign. A number with a sign in front of it is another thing
than one without. -/
inductive Token where
  | number (digits : Bytes)
  | signed (negative : Bool) (digits : Bytes)
  | decimal (negative : Bool) (digits fraction : Bytes)
  | month (n : Nat)
  | weekday (n : Nat)
  /-- The half of the day. -/
  | half (afternoon : Bool)
  /-- How far a time zone is ahead, in seconds. -/
  | zone (ahead : Int)
  /-- Summer time. -/
  | summer
  | unit (u : Measure)
  | ordinal (n : Int)
  | shift (days : Int)
  /-- What has been said goes back, or on. -/
  | ago (sign : Int)
  /-- The letter between a date and a time, which is a time zone as well. -/
  | between
  /-- The time zone of the place. -/
  | here
  | sign (c : Char)
  deriving DecidableEq

/-- The zones with names, and how many quarters of an hour they are ahead. -/
def zones : List (String × Int) :=
  [("GMT", 0), ("UT", 0), ("UTC", 0), ("WET", 0), ("WEST", 4), ("BST", 4), ("ART", -12),
   ("BRT", -12), ("BRST", -8), ("NST", -14), ("NDT", -10), ("AST", -16), ("ADT", -12),
   ("CLT", -16), ("CLST", -12), ("EST", -20), ("EDT", -16), ("CST", -24), ("CDT", -20),
   ("MST", -28), ("MDT", -24), ("PST", -32), ("PDT", -28), ("AKST", -36), ("AKDT", -32),
   ("HST", -40), ("HAST", -40), ("HADT", -36), ("SST", -48), ("WAT", 4), ("CET", 4), ("CEST", 8),
   ("MET", 4), ("MEZ", 4), ("MEST", 8), ("MESZ", 8), ("EET", 8), ("EEST", 12), ("CAT", 8),
   ("SAST", 8), ("EAT", 12), ("MSK", 12), ("MSD", 16), ("IST", 22), ("SGT", 32), ("KST", 36),
   ("JST", 36), ("GST", 40), ("NZST", 48), ("NZDT", 52)]

def units : List (String × Measure) :=
  [("YEAR", .years), ("MONTH", .months), ("FORTNIGHT", .days 14), ("WEEK", .days 7),
   ("DAY", .days 1), ("HOUR", .hours), ("MINUTE", .minutes), ("MIN", .minutes),
   ("SECOND", .seconds), ("SEC", .seconds)]

/-- The words that stand for other things. -/
def otherWords : List (String × Token) :=
  [("TOMORROW", .shift 1), ("YESTERDAY", .shift (-1)), ("TODAY", .shift 0), ("NOW", .shift 0),
   ("LAST", .ordinal (-1)), ("THIS", .ordinal 0), ("NEXT", .ordinal 1), ("FIRST", .ordinal 1),
   ("THIRD", .ordinal 3), ("FOURTH", .ordinal 4), ("FIFTH", .ordinal 5), ("SIXTH", .ordinal 6),
   ("SEVENTH", .ordinal 7), ("EIGHTH", .ordinal 8), ("NINTH", .ordinal 9), ("TENTH", .ordinal 10),
   ("ELEVENTH", .ordinal 11), ("TWELFTH", .ordinal 12), ("AGO", .ago (-1)), ("HENCE", .ago 1)]

/-- The words for months and days, besides their names. -/
def shortNames : List (String × Token) :=
  [("SEPT", .month 9), ("TUES", .weekday 2), ("WEDNES", .weekday 3), ("THUR", .weekday 4),
   ("THURS", .weekday 4)]

/-- The zones of single letters: from `A` on they are ahead, and from `N` on behind. -/
def letterZone? (c : Char) : Option Token :=
  let n : Int := c.toNat - 'A'.toNat
  if c = 'T' then some .between
  else if c = 'J' then some .here
  else if c = 'Z' then some (.zone 0)
  else if 'A' ≤ c && c ≤ 'I' then some (.zone ((n + 1) * 3600))
  else if 'K' ≤ c && c ≤ 'M' then some (.zone (n * 3600))
  else if 'N' ≤ c && c ≤ 'Y' then some (.zone (-(n - 12) * 3600))
  else none

def zone? (word : String) : Option Token :=
  (zones.lookup word).map fun n => .zone (n * 900)

/-- What a word in capitals stands for. -/
def word? (w : Bytes) : Option Token :=
  let word := String.ofList w
  let isShort := w.length = 3 || (w.length = 4 && w.getLast? = some '.')
  let named (names : List String) : Option Nat :=
    names.findIdx? fun n =>
      let name := n.toList.map Char.toUpper
      if isShort then name.take 3 == w.take 3 else name == w
  let singular := if w.getLast? = some 'S' then units.lookup (String.ofList w.dropLast) else none
  let dotless := w.filter (· != '.')
  if word = "AM" || word = "A.M." then some (.half false)
  else if word = "PM" || word = "P.M." then some (.half true)
  else if let some n := named monthNames then some (.month (n + 1))
  else if let some n := named dayNames then some (.weekday n)
  else if let some t := shortNames.lookup word then some t
  else if let some t := zone? word then some t
  else if word = "DST" then some .summer
  else if let some u := (units.lookup word).or singular then some (.unit u)
  else if let some t := otherWords.lookup word then some t
  else match w with
    | [c] => letterZone? c
    | w => if dotless.length < w.length then zone? (String.ofList dotless) else none

/-- The text behind a remark, which may hold others. -/
def behindRemark : Nat → Bytes → Bytes
  | _, [] => []
  | depth, ')' :: r => if depth ≤ 1 then r else behindRemark (depth - 1) r
  | depth, '(' :: r => behindRemark (depth + 1) r
  | depth, _ :: r => behindRemark depth r

/-- The tokens of a text; nothing if it has a word that stands for nothing. -/
def tokens? : Nat → Bytes → Option (List Token)
  | 0, _ => some []
  | _ + 1, [] => some []
  | fuel + 1, c :: r =>
    let numbered (sign : Option Bool) (s : Bytes) : Option (List Token) :=
      let digits := s.takeWhile Char.isDigit
      match s.drop digits.length with
      | d :: f :: r =>
        if (d = '.' || d = ',') && f.isDigit then
          let fraction := (f :: r).takeWhile Char.isDigit
          (tokens? fuel ((f :: r).drop fraction.length)).map
            (.decimal (sign.getD false) digits fraction :: ·)
        else (tokens? fuel (d :: f :: r)).map (whole sign digits :: ·)
      | r => (tokens? fuel r).map (whole sign digits :: ·)
    if isSpaceByte c then tokens? fuel r
    else if c.isDigit then numbered none (c :: r)
    else if c = '-' || c = '+' then
      let r := r.dropWhile isSpaceByte
      if (r.head?).any Char.isDigit then numbered (some (c = '-')) r else tokens? fuel r
    else if c.isAlpha then
      let w := c :: r.takeWhile fun c => c.isAlpha || c = '.'
      match word? ((w.take 19).map Char.toUpper) with
      | some t => (tokens? fuel ((c :: r).drop w.length)).map (t :: ·)
      | none => none
    else if c = '(' then tokens? fuel (behindRemark 1 r)
    else (tokens? fuel r).map (.sign c :: ·)
where
  whole (sign : Option Bool) (digits : Bytes) : Token :=
    match sign with
    | some negative => .signed negative digits
    | none => .number digits

/-! ### Phrases -/

/-- A length of time. -/
structure Span where
  years : Int
  months : Int
  days : Int
  seconds : Int
  nanos : Int

def Span.zero : Span := ⟨0, 0, 0, 0, 0⟩

def Span.of (n : Int) : Measure → Span
  | .years => ⟨n, 0, 0, 0, 0⟩
  | .months => ⟨0, n, 0, 0, 0⟩
  | .days k => ⟨0, 0, n * k, 0, 0⟩
  | .hours => ⟨0, 0, 0, n * 3600, 0⟩
  | .minutes => ⟨0, 0, 0, n * 60, 0⟩
  | .seconds => ⟨0, 0, 0, n, 0⟩

/-- A length of time with another one a number of times. -/
def Span.plus (a : Span) (n : Int) (b : Span) : Span :=
  ⟨a.years + n * b.years, a.months + n * b.months, a.days + n * b.days,
   a.seconds + n * b.seconds, a.nanos + n * b.nanos⟩

/-- What is known of a moment while a phrase is read, and how often each of its parts was given. -/
structure Draft where
  year : Int
  /-- With how many digits the year was written. -/
  yearDigits : Nat
  month : Int
  day : Int
  hour : Nat
  minute : Nat
  second : Nat
  nano : Nat
  /-- The half of the day, if hours are counted in it. -/
  half : Option Bool
  /-- Which of the days of a name is meant, and the day. -/
  weekday : Int × Nat
  ahead : Int
  span : Span
  dates : Nat
  times : Nat
  weekdays : Nat
  zones : Nat
  summers : Nat
  moved : Bool

def Draft.start (now : Moment) : Draft :=
  ⟨now.year, 0, now.month, now.day, now.hour, now.minute, now.second, now.nano, none, (0, 0), 0,
   .zero, 0, 0, 0, 0, 0, false⟩

def number (ds : Bytes) : Nat := Text.ofDigits 10 ds

/-- The nanoseconds of a fraction of a second. -/
def nanosOf (fraction : Bytes) : Nat := number ((fraction ++ List.replicate 9 '0').take 9)

def signedNumber (negative : Bool) (ds : Bytes) : Int :=
  if negative then -(number ds : Int) else number ds

namespace Draft

def timed (d : Draft) (hour minute second nano : Nat) (half : Option Bool) : Draft :=
  { d with hour := hour, minute := minute, second := second, nano := nano, half := half
           times := d.times + 1 }

def dated (d : Draft) (month day : Int) : Draft :=
  { d with month := month, day := day, dates := d.dates + 1 }

def datedFully (d : Draft) (year : Int) (yearDigits : Nat) (month day : Int) : Draft :=
  { d.dated month day with year := year, yearDigits := yearDigits }

def shifted (d : Draft) (n : Int) (s : Span) : Draft :=
  { d with span := d.span.plus n s, moved := true }

def zoned (d : Draft) (ahead : Int) : Draft := { d with ahead := ahead, zones := d.zones + 1 }

/-- The draft with digits that stand alone: a year behind a date, a date, or a time. -/
def withDigits (d : Draft) (ds : Bytes) : Draft :=
  let n := number ds
  if d.dates != 0 && d.yearDigits = 0 && !d.moved && (d.times != 0 || 2 < ds.length) then
    { d with year := n, yearDigits := ds.length }
  else if 4 < ds.length then
    d.datedFully (n / 10000 : Nat) (ds.length - 4) (n / 100 % 100 : Nat) (n % 100 : Nat)
  else if ds.length ≤ 2 then d.timed n 0 0 0 none
  else d.timed (n / 100) (n % 100) 0 0 none

end Draft

/-- How far a zone is ahead that is written as a number, with minutes behind a colon or without. -/
def aheadOf? (negative : Bool) (ds : Bytes) (minutes : Option Nat) : Option Int :=
  let n := number ds
  let size : Nat := match minutes with
    | some m => n * 60 + m
    | none => if ds.length ≤ 2 then n * 60 else n / 100 * 60 + n % 100
  if 24 * 60 < size then none
  else some (if negative then -(size * 60 : Int) else size * 60)

/-- The draft with the zone behind a time, if there is one, and what follows it. -/
def Draft.offset? (d : Draft) : List Token → Option (Draft × List Token)
  | .signed negative z :: .sign ':' :: .number m :: r =>
    (aheadOf? negative z (some (number m))).map fun a => (d.zoned a, r)
  | .signed _ _ :: .sign ':' :: _ => none
  | .signed negative z :: r => (aheadOf? negative z none).map fun a => (d.zoned a, r)
  | r => some (d, r)

/-- The draft with a time behind whose hour a colon stands. -/
def Draft.clock? (d : Draft) (h : Bytes) (halves : Bool) :
    List Token → Option (Draft × List Token)
  | .number m :: .sign ':' :: .number s :: r => ending (number m) (number s) 0 r
  | .number m :: .sign ':' :: .decimal _ s f :: r => ending (number m) (number s) (nanosOf f) r
  | .number _ :: .sign ':' :: _ => none
  | .number m :: r => ending (number m) 0 0 r
  | _ => none
where
  ending (m s f : Nat) : List Token → Option (Draft × List Token)
    | .half afternoon :: r =>
      if halves then some (d.timed (number h) m s f (some afternoon), r) else none
    | r => (d.timed (number h) m s f none).offset? r

/-- The draft with a length of time, which may go back. -/
def Draft.span? (d : Draft) (s : Span) : List Token → Option (Draft × List Token)
  | .ago n :: r => some (d.shifted n s, r)
  | r => some (d.shifted 1 s, r)

/-- The draft with what begins with a number. -/
def Draft.fromNumber? (d : Draft) (n : Bytes) : List Token → Option (Draft × List Token)
  | .half afternoon :: r => some (d.timed (number n) 0 0 0 (some afternoon), r)
  | .sign ':' :: r => d.clock? n true r
  | .signed _ m :: .signed _ day :: .between :: .number h :: r =>
    let d := d.datedFully (number n) n.length (number m) (number day)
    match r with
    | .sign ':' :: r => d.clock? h false r
    | .signed a b :: r => (d.timed (number h) 0 0 0 none).offset? (.signed a b :: r)
    | _ => none
  | .signed _ _ :: .signed _ _ :: .between :: _ => none
  | .signed _ m :: .signed _ day :: r =>
    some (d.datedFully (number n) n.length (number m) (number day), r)
  | .signed negative k :: .unit u :: r =>
    (d.withDigits n).span? (Span.of (signedNumber negative k) u) r
  | .signed negative z :: r => (d.timed (number n) 0 0 0 none).offset? (.signed negative z :: r)
  | .sign '/' :: .number b :: .sign '/' :: .number c :: r =>
    if 4 ≤ n.length then some (d.datedFully (number n) n.length (number b) (number c), r)
    else some (d.datedFully (number c) c.length (number n) (number b), r)
  | .sign '/' :: .number _ :: .sign '/' :: _ => none
  | .sign '/' :: .number b :: r => some (d.dated (number n) (number b), r)
  | .month m :: .signed _ y :: r => some (d.datedFully (number y) y.length m (number n), r)
  | .month m :: .number y :: r => some (d.datedFully (number y) y.length m (number n), r)
  | .month m :: r => some (d.dated m (number n), r)
  | .weekday w :: r =>
    some ({ d with weekday := (number n, w), weekdays := d.weekdays + 1 }, r)
  | .unit u :: r => d.span? (Span.of (number n) u) r
  | r => some (d.withDigits n, r)

/-- The draft with one item more, and what follows it. -/
def Draft.item? (d : Draft) : List Token → Option (Draft × List Token)
  | .number n :: r => d.fromNumber? n r
  | .decimal negative n f :: .unit .seconds :: r =>
    let sign : Int := if negative then -1 else 1
    d.span? ⟨0, 0, 0, sign * number n, sign * nanosOf f⟩ r
  | .signed negative n :: .unit u :: r => d.span? (Span.of (signedNumber negative n) u) r
  | .month m :: .signed _ day :: .signed _ y :: r =>
    some (d.datedFully (number y) y.length m (number day), r)
  | .month m :: .number day :: .sign ',' :: .number y :: r =>
    some (d.datedFully (number y) y.length m (number day), r)
  | .month _ :: .number _ :: .sign ',' :: _ => none
  | .month m :: .number day :: r => some (d.dated m (number day), r)
  | .weekday w :: .sign ',' :: r | .weekday w :: r =>
    some ({ d with weekday := (0, w), weekdays := d.weekdays + 1 }, r)
  | .ordinal n :: .weekday w :: r =>
    some ({ d with weekday := (n, w), weekdays := d.weekdays + 1 }, r)
  | .ordinal n :: .unit u :: r => d.span? (Span.of n u) r
  | .unit u :: r => d.span? (Span.of 1 u) r
  | .shift n :: r => some (d.shifted 1 ⟨0, 0, n, 0, 0⟩, r)
  | .zone a :: .signed negative n :: .unit u :: r =>
    some ((d.zoned a).shifted 1 (Span.of (signedNumber negative n) u), r)
  | .zone a :: .signed negative n :: .sign ':' :: .number m :: r =>
    (aheadOf? negative n (some (number m))).map fun b => (d.zoned (a + b), r)
  | .zone a :: .signed negative n :: r =>
    (aheadOf? negative n none).map fun b => (d.zoned (a + b), r)
  | .zone a :: .summer :: r => some (d.zoned (a + 3600), r)
  | .zone a :: r => some (d.zoned a, r)
  | .between :: .signed negative n :: .unit u :: r =>
    some ((d.zoned (-7 * 3600)).shifted 1 (Span.of (signedNumber negative n) u), r)
  | .between :: r => some (d.zoned (-7 * 3600), r)
  | .here :: r => some (d.zoned 0, r)
  | .summer :: r => some ({ d with summers := d.summers + 1 }, r)
  | _ => none

/-- Read a phrase item by item. -/
def Draft.read? : Nat → Draft → List Token → Option Draft
  | _, d, [] => some d
  | 0, _, _ => none
  | fuel + 1, d, ts => do
    let (d, r) ← d.item? ts
    Draft.read? fuel d r

/-- The hour of the day. -/
def hourOf? (h : Nat) (half : Option Bool) : Option Nat :=
  match half with
  | none => if h < 24 then some h else none
  | some afternoon =>
    if h = 0 || 12 < h then none else some (h % 12 + if afternoon then 12 else 0)

/-- The moment that a draft means, as seconds and nanoseconds; nothing if a part of it is given
twice or is not possible. A date without a time means midnight, and a name of a day the next such
day. -/
def Draft.moment? (d : Draft) : Option (Int × Nat) := do
  if d.dates > 1 || d.times > 1 || d.weekdays > 1 || d.zones > 1 || d.summers > 1 then none
  let year := if d.yearDigits = 2 then (if d.year < 69 then d.year + 2000 else d.year + 1900)
    else d.year
  let keepsTime := d.times != 0 || (d.moved && d.dates = 0 && d.weekdays = 0)
  let hour ← if keepsTime then hourOf? d.hour d.half else some 0
  let (minute, second, nano) := if keepsTime then (d.minute, d.second, d.nano) else (0, 0, 0)
  if !isDate year d.month.toNat d.day.toNat || !isTime hour minute second || second = 60 then none
  let days := daysTo year d.month.toNat d.day.toNat
  let days :=
    if d.weekdays = 0 || d.dates != 0 then days
    else
      let today := (days + 4) % 7
      let named : Int := d.weekday.2
      let weeks := d.weekday.1 - (if 0 < d.weekday.1 && today != named then 1 else 0)
      days + 7 * weeks + (named - today + 7) % 7
  let (y, m, day) := dateOf days
  let months := (y + d.span.years) * 12 + (m - 1 : Nat) + d.span.months
  let days := daysTo (months.fdiv 12) ((months % 12).toNat + 1) 1 + (day - 1 : Nat) + d.span.days
  let nanos := (nano : Int) + d.span.nanos
  let seconds := days * 86400 + hour * 3600 + minute * 60 + second - d.ahead + d.span.seconds
  return (seconds + nanos.fdiv 1000000000, (nanos % 1000000000).toNat)

/-- A count of seconds behind the sign for it. -/
def count? : List Token → Option (Int × Nat)
  | [.number n] => some (number n, 0)
  | [.signed negative n] => some (signedNumber negative n, 0)
  | [.decimal negative n f] =>
    let nanos : Int := nanosOf f
    let total := if negative then -((number n : Int) * 1000000000 + nanos)
      else number n * 1000000000 + nanos
    some (total.fdiv 1000000000, (total % 1000000000).toNat)
  | _ => none

/-- The count of seconds, and the part of the next one, that a text means. -/
def read? (now : Moment) (s : Bytes) : Option (Int × Nat) := do
  match ← tokens? (s.length + 1) s with
  | .sign '@' :: ts => count? ts
  | ts => (← (Draft.start now).read? (ts.length + 1) ts).moment?

end SvgSkeleton.Shell.Calendar
