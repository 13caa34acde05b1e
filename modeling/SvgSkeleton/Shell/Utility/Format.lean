import SvgSkeleton.Shell.Floating
import SvgSkeleton.Shell.Utility.Options

/-!
`echo` and `printf`: escapes behind a backslash, and directives that are filled from arguments.
-/

namespace SvgSkeleton.Shell

/-! ### Escapes -/

def isOctal (c : Char) : Bool := '0' ≤ c && c ≤ '7'

/-- The byte that a letter stands for behind a backslash. -/
def escapeLetter? : Char → Option Nat
  | 'a' => some 7
  | 'b' => some 8
  | 'e' => some 27
  | 'f' => some 12
  | 'n' => some 10
  | 'r' => some 13
  | 't' => some 9
  | 'v' => some 11
  | '\\' => some 92
  | _ => none

/-- Which escapes there are. -/
structure EscapeRules where
  /-- A zero may stand before the octal digits. -/
  leadingZero : Bool
  /-- `\c` ends all output. -/
  stops : Bool
  /-- `\xHH` is a byte. -/
  hexadecimal : Bool
  /-- A quotation mark may be escaped, too. -/
  quotes : Bool

/-- The byte that an octal escape stands for. -/
def octalByte (digits : Bytes) : Char := Char.ofNat (Text.ofDigits 8 digits % 256)

/-- The string with its escapes resolved, and whether output ends with it. -/
def unescape (rules : EscapeRules) : Nat → Bytes → Bytes × Bool
  | 0, s => (s, false)
  | fuel + 1, s =>
    let go (out rest : Bytes) : Bytes × Bool :=
      let (more, stopped) := unescape rules fuel rest
      (out ++ more, stopped)
    match s with
    | [] => ([], false)
    | '\\' :: c :: r =>
      if c = 'c' && rules.stops then ([], true)
      else
        let body := if c = '0' && rules.leadingZero && r.head?.any isOctal then r else c :: r
        let digits := (body.take 3).takeWhile isOctal
        let hex := (r.take 2).takeWhile fun d => (Text.hexValue d).isSome
        if !digits.isEmpty then go [octalByte digits] (body.drop digits.length)
        else if c = 'x' && rules.hexadecimal && !hex.isEmpty then
          go [Char.ofNat (hex.foldl (fun n d => n * 16 + (Text.hexValue d).getD 0) 0)]
            (r.drop hex.length)
        else
          match escapeLetter? c with
          | some n => go [Char.ofNat n] r
          | none => go (if c = '"' && rules.quotes then ['"'] else ['\\', c]) r
    | s =>
      let run := s.takeWhile (· != '\\')
      if run.isEmpty then (s, false) else go run (s.drop run.length)

/-- The escapes of `echo` and `%b` in the shell. -/
def echoRules : EscapeRules := ⟨true, true, false, false⟩

/-- `echo` of the shell: escapes are always resolved. -/
def echoBuiltin (args : List Bytes) : Shell Nat := do
  let (newline, words) := match args with
    | ['-', 'n'] :: r => (false, r)
    | r => (true, r)
  let text := Bytes.join [' '] words
  let (out, stopped) := unescape echoRules (text.length + 1) text
  write 1 (if newline && !stopped then out ++ ['\n'] else out)
  return 0

/-- `echo` as a program: escapes are resolved behind `-e` only. -/
def echoProgram : Utility := fun _ args => do
  let isOption (a : Bytes) : Bool :=
    match a with
    | '-' :: c :: r => (c :: r).all fun c => c == 'n' || c == 'e' || c == 'E'
    | _ => false
  let options := (args.takeWhile isOption).flatten
  let words := args.dropWhile isOption
  let text := Bytes.join [' '] words
  let escapes := (options.filter fun c => c == 'e' || c == 'E').getLast? == some 'e'
  let (out, stopped) :=
    if escapes then unescape ⟨true, true, true, false⟩ (text.length + 1) text else (text, false)
  write 1 (if options.contains 'n' || stopped then out else out ++ ['\n'])
  return 0

/-! ### Directives -/

/-- A piece of a format. -/
inductive FormatPiece where
  | text (s : Bytes)
  | stop
  | directive (d : Directive)
  /-- A directive that does not exist, whose extents are still read. -/
  | bad (width precision : Option Extent) (s : Bytes)
  /-- A directive without its letter. -/
  | unfinished (width precision : Option Extent) (s : Bytes)
  /-- Hexadecimal digits are missing behind a backslash. -/
  | noDigits

/-- What formats are made of. -/
structure FormatRules where
  escapes : EscapeRules
  /-- Is there such a directive? -/
  allows : Directive → Bool
  /-- Letters in front of a conversion that say how long a number is. -/
  lengths : Bytes
  flags : Bytes

/-- The character that four or eight hexadecimal digits stand for, as it is written where only
ASCII can be. -/
def shownCharacter (long : Bool) (n : Nat) : Bytes :=
  if n < 128 then [Char.ofNat n]
  else
    let width := if long && n > 0xFFFF then 8 else 4
    let ds := (Nat.toDigits 16 n).map Char.toUpper
    ['\\', if width = 8 then 'U' else 'u'] ++ List.replicate (width - ds.length) '0' ++ ds

/-- The pieces of a format. -/
def formatPieces (rules : FormatRules) : Nat → Bytes → List FormatPiece
  | 0, _ => []
  | fuel + 1, s =>
    match s with
    | [] => []
    | '%' :: '%' :: r => .text ['%'] :: formatPieces rules fuel r
    | '%' :: r =>
      let flags := r.takeWhile rules.flags.contains
      let (width, r1) := extent? (r.drop flags.length)
      let (precision, r2) := match r1 with
        | '.' :: r =>
          let (p, r) := extent? r
          (some (p.getD (.fixed 0)), r)
        | r => (none, r)
      match r2.dropWhile rules.lengths.contains with
      | c :: r3 =>
        let d : Directive := ⟨flags, width, precision, c⟩
        if rules.allows d then .directive d :: formatPieces rules fuel r3
        else [.bad width precision (s.take (s.length - r3.length))]
      | [] => [.unfinished width precision s]
    | '\\' :: 'x' :: r =>
      let digits := (r.take 2).takeWhile fun d => (Text.hexValue d).isSome
      if !rules.escapes.hexadecimal then .text ['\\', 'x'] :: formatPieces rules fuel r
      else if digits.isEmpty then [.noDigits]
      else .text [Char.ofNat (Whole.ofDigits 16 digits)]
        :: formatPieces rules fuel (r.drop digits.length)
    | '\\' :: 'u' :: r | '\\' :: 'U' :: r =>
      let long := s[1]? == some 'U'
      let digits := r.take (if long then 8 else 4)
      if !rules.escapes.hexadecimal then .text (s.take 2) :: formatPieces rules fuel r
      else if digits.length < (if long then 8 else 4)
          || digits.any fun d => (Text.hexValue d).isNone
      then [.noDigits]
      else .text (shownCharacter long (Whole.ofDigits 16 digits))
        :: formatPieces rules fuel (r.drop digits.length)
    | '\\' :: c :: r =>
      let digits := ((c :: r).take 3).takeWhile isOctal
      let n := if digits.isEmpty then 2 else digits.length + 1
      let (out, stopped) := unescape rules.escapes 4 (s.take n)
      if stopped then [.text out, .stop]
      else .text out :: formatPieces rules fuel (s.drop n)
    | s =>
      let run := s.takeWhile fun c => c != '%' && c != '\\'
      if run.isEmpty then [.text s] else .text run :: formatPieces rules fuel (s.drop run.length)

/-- The words in which a program complains about arguments. -/
structure NumberFaults where
  notNumber : Bytes → Bytes
  partly : Bytes → Bytes
  tooGreat : Bytes → Bytes
  /-- What is said about what follows a character between quotes, which counts no more. -/
  ignored : Bytes → Option Bytes

/-- The faults of formats, as a program words them. -/
structure FormatFaults where
  numbers : NumberFaults
  bad : Bytes → Bytes
  unfinished : Bytes → Bytes
  /-- What ends printing where an argument is too great for an extent of this name. Without it the
  argument wraps around. -/
  beyond : Option (String → Bytes → Bytes)
  /-- What ends printing where the format writes an extent that is too great. Without it the
  directive alone is lost. -/
  excessive : Option Bytes

/-- The output of a format so far, latest first, with what is wrong with arguments. -/
structure Printing where
  events : List (Except Bytes Bytes)
  args : List Bytes
  stopped : Bool
  /-- Has an argument been at fault? -/
  failed : Bool
  /-- Has a directive been lost? -/
  lost : Bool
  /-- The fault of the format at which printing has stopped. -/
  broken : Option Bytes

namespace Printing

def emit (p : Printing) (s : Bytes) : Printing := { p with events := .ok s :: p.events }

def complain (p : Printing) (fault : Bytes) (counts : Bool) : Printing :=
  { p with events := .error fault :: p.events, failed := p.failed || counts }

/-- Take an argument. -/
def take (p : Printing) : Option Bytes × Printing := (p.args.head?, { p with args := p.args.tail })

/-- Complain about a number of which something is left or which is out of range. -/
def check (faults : NumberFaults) (p : Printing) (s rest : Bytes) (outOfRange : Bool) : Printing :=
  if outOfRange then p.complain (faults.tooGreat s) true
  else if rest.isEmpty then p
  else p.complain (if rest.length = s.length then faults.notNumber s else faults.partly s) true

/-- The code of the character behind a quotation mark in front of an argument. -/
def quotedCode? (faults : NumberFaults) (p : Printing) (s : Bytes) : Option (Nat × Printing) :=
  match s with
  | '\'' :: c :: r | '"' :: c :: r =>
    match r, faults.ignored r with
    | _ :: _, some fault => some (c.toNat, p.complain fault false)
    | _, _ => some (c.toNat, p)
  | _ => none

/-- The whole number that an argument writes. -/
def whole (faults : NumberFaults) (signed : Bool) (p : Printing) (s : Bytes) : Int × Printing :=
  match p.quotedCode? faults s with
  | some (n, p) => (n, p)
  | none =>
    let w := if signed then Whole.signed none s else Whole.unsigned none s
    (w.value, p.check faults s w.rest w.clamped)

/-- The number with a fraction that an argument writes. -/
def floating (faults : NumberFaults) (form : Floating.Form) (p : Printing) (s : Bytes) :
    Floating × Printing :=
  match p.quotedCode? faults s with
  | some (n, p) => (.ofInt n, p)
  | none =>
    let r := Floating.read form s
    (r.value, p.check faults s r.rest r.outOfRange)

/-- End printing with a fault of the format. -/
def endWith (p : Printing) (fault : Bytes) : Printing :=
  { p with stopped := true, broken := some fault }

/-- The value of a width or a precision that is not too great for printing to go on. -/
def extent (faults : FormatFaults) (name : String) (p : Printing) (e : Option Extent) :
    Option Int × Printing :=
  if p.stopped then (none, p)
  else
    match e with
    | none => (none, p)
    | some (.fixed n) => (some n, p)
    | some .given =>
      let (arg, p) := p.take
      match arg with
      | none => (some 0, p)
      | some s =>
        let (n, p) := p.whole faults.numbers true s
        match faults.beyond with
        | none => (some (Extent.wrapped n), p)
        | some fault =>
          if Extent.greatest < n || (name = "field width" && n < -Extent.greatest - 1) then
            (none, p.endWith (fault name s))
          else (some n, p)

/-- Are the extents that the format writes small enough? -/
def holds (d : Directive) : Bool :=
  [d.width, d.precision].all fun e => match e with
    | some (.fixed n) => decide (n ≤ Extent.greatest)
    | _ => true

/-- Read the extents of a directive that is none, with whose fault printing ends. -/
def refuse (faults : FormatFaults) (p : Printing) (width precision : Option Extent)
    (fault : Bytes) : Printing :=
  let (_, p) := p.extent faults "field width" width
  let (_, p) := p.extent faults "precision" precision
  if p.stopped then p else p.endWith fault

/-- Fill a directive. -/
def fill (faults : FormatFaults) (form : Floating.Form) (p : Printing) (d : Directive) :
    Printing :=
  let (width, p) := p.extent faults "field width" d.width
  let (precision, p) := p.extent faults "precision" d.precision
  if p.stopped then p else
  let (flags, width) := match width with
    | some (.negSucc n) => ('-' :: d.flags, n + 1)
    | some (.ofNat n) => (d.flags, n)
    | none => (d.flags, 0)
  let precision : Option Nat := match precision with
    | some (.ofNat n) => some n
    | _ => none
  let (arg, p) := p.take
  if !holds d then
    match faults.excessive with
    | some fault => p.endWith fault
    | none => { p with lost := true }
  else
  let text := arg.getD []
  let cut (s : Bytes) : Bytes := match precision with
    | some n => s.take n
    | none => s
  match d.conversion with
  | 's' => p.emit (inField flags width false [] (cut text))
  | 'q' => p.emit (Quoting.ifNeeded text)
  | 'c' => p.emit (inField flags width false [] [text.headD '\x00'])
  | 'b' =>
    let (out, stopped) := unescape { echoRules with hexadecimal := form.bits > 53 }
      (text.length + 1) text
    { p.emit (inField flags width false [] (cut out)) with stopped := stopped }
  | c =>
    if "aAeEfFgG".toList.contains c then
      let (x, p) := match arg with
        | none => (Floating.zero, p)
        | some s => p.floating faults.numbers form s
      p.emit (Floating.shown form flags c width precision x)
    else
      let (n, p) := match arg with
        | none => (0, p)
        | some s => p.whole faults.numbers (c == 'd' || c == 'i') s
      p.emit (showInteger flags c width precision n)

/-- Print a piece of the format. -/
def piece (faults : FormatFaults) (form : Floating.Form) (p : Printing) (f : FormatPiece) :
    Printing :=
  if p.stopped then p
  else
    match f with
    | .text s => p.emit s
    | .stop => { p with stopped := true }
    | .directive d => p.fill faults form d
    | .bad width precision s => p.refuse faults width precision (faults.bad s)
    | .unfinished width precision s => p.refuse faults width precision (faults.unfinished s)
    | .noDigits => p.endWith "missing hexadecimal number in escape".toList

/-- Print the format again and again until the arguments are used up. -/
def passes (faults : FormatFaults) (form : Floating.Form) (pieces : List FormatPiece) :
    Nat → Printing → Printing
  | 0, p => p
  | fuel + 1, p =>
    let q := pieces.foldl (piece faults form) p
    if q.stopped || q.args.isEmpty || q.args.length = p.args.length then q
    else passes faults form pieces fuel q

end Printing

/-- What printing a format comes to. -/
def printing (rules : FormatRules) (faults : FormatFaults) (form : Floating.Form)
    (format : Bytes) (args : List Bytes) : Printing :=
  let pieces := formatPieces rules (format.length + 1) format
  let p := Printing.passes faults form pieces (args.length + 1) ⟨[], args, false, false, false, none⟩
  { p with events := p.events.reverse }

def builtinFaults : FormatFaults where
  numbers := ⟨(· ++ ": expected numeric value".toList), (· ++ ": not completely converted".toList),
    (· ++ ": Numerical result out of range".toList), fun _ => none⟩
  bad := (· ++ ": invalid directive".toList)
  unfinished := fun _ => "missing format character".toList
  beyond := none
  excessive := some "xvsnprintf failed".toList

def builtinRules : FormatRules :=
  ⟨⟨false, false, false, false⟩, fun d => "diouxXcsbaAeEfFgG".toList.contains d.conversion, [],
    "-+ #0".toList⟩

/-- `printf` of the shell. Complaints come before all output. -/
def printfBuiltin (args : List Bytes) : Shell Nat := do
  match args with
  | [] => failWith "usage: printf format [arg ...]".toList
  | format :: args =>
    let p := printing builtinRules builtinFaults .double format args
    p.events.forM fun e => match e with
      | .error fault => complain fault
      | .ok _ => return ()
    if let some fault := p.broken then complain fault
    write 1 (p.events.flatMap fun e => match e with
      | .ok s => s
      | .error _ => [])
    return if p.broken.isSome then 2 else if p.failed then 1 else 0

def programFaults : FormatFaults where
  numbers := ⟨fun s => Quoting.plain s ++ ": expected a numeric value".toList,
    fun s => Quoting.plain s ++ ": value not completely converted".toList,
    fun s => Quoting.plain s ++ ": Numerical result out of range".toList,
    fun s => some ("warning: ".toList ++ s
      ++ ": character(s) following character constant have been ignored".toList)⟩
  bad := (· ++ ": invalid conversion specification".toList)
  unfinished := (· ++ ": invalid conversion specification".toList)
  beyond := some fun name s => "invalid ".toList ++ name.toList ++ ": ".toList ++ Quoting.plain s
  excessive := none

/-- The directives of the program: flags, widths and precisions are only allowed where they have a
meaning. -/
def programAllows (d : Directive) : Bool :=
  let only (marks conversions : String) : Bool :=
    d.flags.any marks.toList.contains && conversions.toList.contains d.conversion
  if d.conversion = 'b' || d.conversion = 'q' then
    d.flags.isEmpty && d.width.isNone && d.precision.isNone
  else
    "diouxXcsaAeEfFgG".toList.contains d.conversion && !only "#" "cdisu" && !only "0" "cs"
      && !only "'I" "aAceEosxX" && !(d.precision.isSome && d.conversion = 'c')

def programRules : FormatRules :=
  ⟨⟨false, true, true, true⟩, programAllows, "lLhjtz".toList, "-+ #0'I".toList⟩

/-- `printf` as a program. -/
def printfProgram : Utility := fun name args => do
  let args := if args.head? = some ['-', '-'] then args.tail else args
  match args with
  | [] => misused name "missing operand".toList 1
  | format :: args =>
    let p := printing programRules programFaults .extended format args
    p.events.forM fun e => match e with
      | .error fault => utilityError name fault
      | .ok s => write 1 s
    match p.broken with
    | some fault =>
      utilityError name fault
      return 1
    | none =>
      if !p.stopped && p.args.length = args.length then
        if let some extra := args.head? then
          utilityError name ("warning: ignoring excess arguments, starting with ".toList
            ++ Quoting.plain extra)
      if p.lost then utilityError name "write error".toList
      return if p.failed || p.lost then 1 else 0

end SvgSkeleton.Shell
