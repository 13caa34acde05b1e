import SvgSkeleton.Shell.Bytes

/-!
Days and times: a count of seconds as a date of the Gregorian calendar and back, dates in a format
with directives, and dates written as digits. All times are those of the prime meridian.
-/

namespace SvgSkeleton.Shell.Calendar

/-- A date with a time of day. Months and days of the month are counted from one on. -/
structure Moment where
  year : Int
  month : Nat
  day : Nat
  hour : Nat
  minute : Nat
  second : Nat
  nano : Nat

/-! ### Days -/

/-- The days from the first of January 1970 to a date. The year is taken to begin in March, so that
the leap day is its last one. -/
def daysTo (year : Int) (month day : Nat) : Int :=
  let y := if month ≤ 2 then year - 1 else year
  let era := y.fdiv 400
  let ofEra := y - era * 400
  let ofYear : Int := (153 * ((month + 9) % 12) + 2) / 5 + day - 1
  let ofEraDays := ofEra * 365 + ofEra / 4 - ofEra / 100 + ofYear
  era * 146097 + ofEraDays - 719468

/-- The date that is so many days behind the first of January 1970. -/
def dateOf (days : Int) : Int × Nat × Nat :=
  let z := days + 719468
  let era := z.fdiv 146097
  let ofEra := z - era * 146097
  let yearOfEra := (ofEra - ofEra / 1460 + ofEra / 36524 - ofEra / 146096) / 365
  let ofYear := ofEra - (365 * yearOfEra + yearOfEra / 4 - yearOfEra / 100)
  let part := (5 * ofYear + 2) / 153
  let day := ofYear - (153 * part + 2) / 5 + 1
  let month := if part < 10 then part + 3 else part - 9
  let year := yearOfEra + era * 400
  (if month ≤ 2 then year + 1 else year, month.toNat, day.toNat)

def Moment.ofSeconds (seconds : Int) (nano : Nat) : Moment :=
  let days := seconds.fdiv 86400
  let rest := (seconds - days * 86400).toNat
  let (y, m, d) := dateOf days
  ⟨y, m, d, rest / 3600, rest / 60 % 60, rest % 60, nano⟩

def Moment.days (t : Moment) : Int := daysTo t.year t.month t.day

def Moment.seconds (t : Moment) : Int :=
  t.days * 86400 + t.hour * 3600 + t.minute * 60 + t.second

/-- The day of the week; Sunday is zero. -/
def Moment.weekday (t : Moment) : Nat := ((t.days + 4) % 7).toNat

/-- The day of the year, from zero on. -/
def Moment.yearDay (t : Moment) : Nat := (t.days - daysTo t.year 1 1).toNat

/-- The week of the year by the international rule, and the year that it belongs to: a week belongs
to the year that its Thursday is in. -/
def Moment.isoWeek (t : Moment) : Int × Nat :=
  let thursday := t.days - ((t.weekday + 6) % 7 : Nat) + 3
  let (y, _, _) := dateOf thursday
  (y, ((thursday - daysTo y 1 1) / 7).toNat + 1)

/-! ### Formats -/

def dayNames : List String :=
  ["Sunday", "Monday", "Tuesday", "Wednesday", "Thursday", "Friday", "Saturday"]

def monthNames : List String :=
  ["January", "February", "March", "April", "May", "June", "July", "August", "September",
   "October", "November", "December"]

/-- A number with some character in front, so that it is so wide. -/
def padded (flag : Option Char) (usual : Char) (width : Nat) (n : Int) : Bytes :=
  let fill := match flag with
    | some '_' => ' '
    | some '0' => '0'
    | _ => usual
  let ds := Bytes.ofNat n.natAbs
  let sign := if n < 0 then ['-'] else []
  if flag = some '-' then sign ++ ds
  else sign ++ List.replicate (width - ds.length - sign.length) fill ++ ds

/-- What a directive shows: its flag, its width and its letter are given. -/
def Moment.directive (t : Moment) (flag : Option Char) (width : Option Nat) (c : Char) : Bytes :=
  let num (w : Nat) (n : Int) : Bytes := padded flag '0' (width.getD w) n
  let blank (w : Nat) (n : Int) : Bytes := padded flag ' ' (width.getD w) n
  let text (s : String) : Bytes :=
    let s := if flag = some '^' then s.toList.map Char.toUpper
      else if flag = some '#' then s.toList.map Char.toUpper else s.toList
    List.replicate (width.getD 0 - s.length) ' ' ++ s
  let hour12 := if t.hour % 12 = 0 then 12 else t.hour % 12
  let two (n : Nat) : Bytes := padded none '0' 2 n
  let date := num 4 t.year ++ '-' :: two t.month ++ '-' :: two t.day
  let time := two t.hour ++ ':' :: two t.minute ++ ':' :: two t.second
  let american := two t.month ++ '/' :: two t.day ++ '/' :: two (t.year % 100).toNat
  match c with
  | 'a' => text (((dayNames.getD t.weekday "").take 3).toString)
  | 'A' => text (dayNames.getD t.weekday "")
  | 'b' | 'h' => text (((monthNames.getD (t.month - 1) "").take 3).toString)
  | 'B' => text (monthNames.getD (t.month - 1) "")
  | 'c' =>
    ((dayNames.getD t.weekday "").take 3).toString.toList ++ ' ' ::
      ((monthNames.getD (t.month - 1) "").take 3).toString.toList ++ ' ' ::
      padded none ' ' 2 t.day ++ ' ' :: time ++ ' ' :: Bytes.ofInt t.year
  | 'C' => num 2 (t.year.fdiv 100)
  | 'd' => num 2 t.day
  | 'D' | 'x' => american
  | 'e' => blank 2 t.day
  | 'F' => date
  | 'g' => num 2 (t.isoWeek.1 % 100)
  | 'G' => num 4 t.isoWeek.1
  | 'H' => num 2 t.hour
  | 'I' => num 2 hour12
  | 'j' => num 3 (t.yearDay + 1)
  | 'k' => blank 2 t.hour
  | 'l' => blank 2 hour12
  | 'm' => num 2 t.month
  | 'M' => num 2 t.minute
  | 'n' => ['\n']
  | 'N' =>
    let ds := padded none '0' 9 t.nano
    match width with
    | some w => if w ≤ 9 then ds.take w else ds ++ List.replicate (w - 9) '0'
    | none => ds
  | 'p' => if flag = some '#' then (if t.hour < 12 then "am" else "pm").toList
    else text (if t.hour < 12 then "AM" else "PM")
  | 'P' => (if t.hour < 12 then "am" else "pm").toList
  | 'q' => num 1 ((t.month + 2) / 3)
  | 'r' => two hour12 ++ ':' :: two t.minute ++ ':' :: two t.second
      ++ (if t.hour < 12 then " AM" else " PM").toList
  | 'R' => two t.hour ++ ':' :: two t.minute
  | 's' => num 1 t.seconds
  | 'S' => num 2 t.second
  | 't' => ['\t']
  | 'T' | 'X' => time
  | 'u' => num 1 (if t.weekday = 0 then 7 else t.weekday)
  | 'U' => num 2 ((t.yearDay + 7 - t.weekday) / 7)
  | 'V' => num 2 t.isoWeek.2
  | 'w' => num 1 t.weekday
  | 'W' => num 2 ((t.yearDay + 7 - (t.weekday + 6) % 7) / 7)
  | 'y' => num 2 (t.year % 100)
  | 'Y' => num 4 t.year
  | 'z' => "+0000".toList
  | 'Z' => if flag = some '#' then "utc".toList else text "UTC"
  | '%' => ['%']
  | c => ['%', c]

/-- A moment in a format. -/
def Moment.format (t : Moment) : Nat → Bytes → Bytes
  | 0, _ => []
  | _ + 1, [] => []
  | fuel + 1, '%' :: r =>
    let flags := r.takeWhile fun c => "-_0^#".toList.contains c
    let r1 := r.drop flags.length
    let digits := r1.takeWhile Char.isDigit
    let r2 := r1.drop digits.length
    let width := if digits.isEmpty then none else some (Text.ofDigits 10 digits)
    match r2 with
    | ':' :: 'z' :: rest => "+00:00".toList ++ t.format fuel rest
    | ':' :: ':' :: 'z' :: rest => "+00:00:00".toList ++ t.format fuel rest
    | 'E' :: c :: rest | 'O' :: c :: rest =>
      t.directive flags.getLast? width c ++ t.format fuel rest
    | c :: rest =>
      let known := "aAbBcCdDeFgGhHIjklmMnNpPqrRsStTuUVwWxXyYzZ%".toList.contains c
      (if known then t.directive flags.getLast? width c else '%' :: flags ++ digits ++ [c])
        ++ t.format fuel rest
    | [] => '%' :: flags ++ digits
  | fuel + 1, c :: r => c :: t.format fuel r

/-- A moment in a format. -/
def Moment.formatted (t : Moment) (format : Bytes) : Bytes := t.format (format.length + 1) format

/-! ### Dates as digits -/

/-- Is it a time of day? -/
def isTime (h m s : Nat) : Bool := h < 24 && m < 60 && s ≤ 60

/-- How many days a month has. -/
def daysIn (year : Int) (month : Nat) : Nat :=
  ((if month = 12 then daysTo (year + 1) 1 1 else daysTo year (month + 1) 1)
    - daysTo year month 1).toNat

def isDate (y : Int) (m d : Nat) : Bool := 1 ≤ m && m ≤ 12 && 1 ≤ d && d ≤ daysIn y m

/-- A year of two digits is one near the turn of the century. -/
def fullYear (ds : Bytes) : Int :=
  let n := Text.ofDigits 10 ds
  if ds.length ≤ 2 then (if n < 69 then 2000 + n else 1900 + n) else n

/-- The seconds that digits write as `[[CC]YY]MMDDhhmm[.ss]`. -/
def ofDigits? (now : Moment) (s : Bytes) : Option Int :=
  let body := s.takeWhile Char.isDigit
  let rest := s.drop body.length
  let seconds := match rest with
    | [] => some 0
    | ['.', a, b] => if a.isDigit && b.isDigit then some (Text.ofDigits 10 [a, b]) else none
    | _ => none
  let n := body.length
  match seconds with
  | none => none
  | some sec =>
    if n != 8 && n != 10 && n != 12 then none
    else
      let year : Int := if n = 8 then now.year else fullYear (body.take (n - 8))
      let parts := body.drop (n - 8)
      let part (i : Nat) : Nat := Text.ofDigits 10 ((parts.drop (2 * i)).take 2)
      if isDate year (part 0) (part 1) && isTime (part 2) (part 3) sec then
        some (daysTo year (part 0) (part 1) * 86400 + part 2 * 3600 + part 3 * 60 + sec)
      else none

end SvgSkeleton.Shell.Calendar
