import SvgSkeleton.Shell.Floating
import SvgSkeleton.Shell.Utility.Columns
import SvgSkeleton.Shell.Utility.Lines

/-!
`numfmt`: numbers with letters for great units turned into plain ones, and the other way round.
-/

namespace SvgSkeleton.Shell.Figures

/-- Which units letters stand for. -/
inductive Scale where
  | none
  | auto
  | thousands
  | binary
  /-- Units of binary powers, with an `i` behind their letter. -/
  | marked
  deriving DecidableEq

def Scale.base : Scale → Nat
  | .binary | .marked => 1024
  | _ => 1000

def scales : List (String × Scale) :=
  [("none", .none), ("auto", .auto), ("si", .thousands), ("iec", .binary), ("iec-i", .marked)]

/-- How a number is rounded. -/
inductive Rounding where
  | up
  | down
  | fromZero
  | towardsZero
  | nearest

def roundings : List (String × Rounding) :=
  [("up", .up), ("down", .down), ("from-zero", .fromZero), ("towards-zero", .towardsZero),
   ("nearest", .nearest)]

/-- What is done about what is no number. -/
inductive Severity where
  | abort
  | fail
  | warn
  | ignore
  deriving DecidableEq

def severities : List (String × Severity) :=
  [("abort", .abort), ("fail", .fail), ("warn", .warn), ("ignore", .ignore)]

/-- The letters of units, from the first power on. -/
def unitLetters : Bytes := "KMGTPEZYRQ".toList

/-- A quotient of which the second number is positive. -/
structure Quotient where
  num : Int
  den : Nat

namespace Quotient

def size (q : Quotient) : Nat := q.num.natAbs

/-- Is its size at least a number? -/
def reaches (q : Quotient) (n : Nat) : Bool := n * q.den ≤ q.size

def scaled (q : Quotient) (top bottom : Nat) : Quotient := ⟨q.num * top, q.den * bottom⟩

def rounded (q : Quotient) (r : Rounding) : Int :=
  match r with
  | .up => -(Int.fdiv (-q.num) q.den)
  | .down => Int.fdiv q.num q.den
  | .fromZero => if q.num < 0 then Int.fdiv q.num q.den else -(Int.fdiv (-q.num) q.den)
  | .towardsZero => Int.tdiv q.num q.den
  | .nearest =>
    let n : Int := (2 * q.size + q.den) / (2 * q.den) |> Int.ofNat
    if q.num < 0 then -n else n

end Quotient

/-! ### Reading -/

/-- Why a text is no number. -/
inductive Fault where
  | noNumber
  | refusedSuffix
  | wrongSuffix
  | missingMark
  | behind (rest : Bytes)

def Fault.message (text : Bytes) : Fault → Bytes
  | .noNumber => "invalid number: ".toList ++ Quoting.plain text
  | .refusedSuffix =>
    "rejecting suffix in input: ".toList ++ Quoting.plain text ++ " (consider using --from)".toList
  | .wrongSuffix => "invalid suffix in input: ".toList ++ Quoting.plain text
  | .missingMark =>
    "missing 'i' suffix in input: ".toList ++ Quoting.plain text ++ " (e.g Ki/Mi/Gi)".toList
  | .behind rest =>
    "invalid suffix in input ".toList ++ Quoting.plain text ++ [':', ' '] ++ Quoting.plain rest

/-- The digits of a number at the front of a text, the places behind its point, and what follows. -/
def digits? (s : Bytes) : Option (Quotient × Nat × Bytes) :=
  let (negative, s) : Bool × Bytes := match s with
    | '-' :: r => (true, r)
    | s => (false, s)
  let whole := s.takeWhile Char.isDigit
  let make (ds : Bytes) (places : Nat) : Quotient :=
    let n : Int := Text.ofDigits 10 ds
    ⟨if negative then -n else n, Nat.pow 10 places⟩
  match s.drop whole.length with
  | '.' :: r =>
    let fraction := r.takeWhile Char.isDigit
    if fraction.isEmpty then none
    else some (make (whole ++ fraction) fraction.length, fraction.length, r.drop fraction.length)
  | r => if whole.isEmpty then none else some (make whole 0, 0, r)

/-- The number that a text writes, and its places. -/
def read (scale : Scale) (s : Bytes) : Except Fault (Quotient × Nat) :=
  match digits? s with
  | none => .error .noNumber
  | some (q, places, rest) =>
    match rest.dropWhile isBlankByte with
    | [] => .ok (q, places)
    | c :: rest =>
      match unitLetters.idxOf? c with
      | none => .error .wrongSuffix
      | some i =>
        if scale = .none then .error .refusedSuffix
        else
          let marked := rest.head? = some 'i'
          if scale = .marked && !marked then .error .missingMark
          else
            let takesMark := marked && (scale = .marked || scale = .auto)
            let base := if scale = .auto && marked then 1024 else scale.base
            let left := if takesMark then rest.drop 1 else rest
            if left.isEmpty then .ok (q.scaled (Nat.pow base (i + 1)) 1, 0)
            else .error (.behind left)

/-! ### Writing -/

/-- How numbers are written. -/
structure Style where
  scale : Scale
  rounding : Rounding
  /-- The places that are asked for. -/
  places : Option Nat
  /-- The width that is filled with zeros. -/
  zeros : Nat

/-- A number with some places. -/
def fixedText (q : Quotient) (places zeros : Nat) : Bytes :=
  let sign := if q.num < 0 then ['-'] else []
  let body := Floating.showFixed q.size q.den places
  sign ++ List.replicate (zeros - sign.length - body.length) '0' ++ body

/-- A number rounded to some places. -/
def roundedTo (q : Quotient) (r : Rounding) (places : Nat) : Quotient :=
  ⟨(q.scaled (Nat.pow 10 places) 1).rounded r, Nat.pow 10 places⟩

/-- How often a number can be divided by a base before it is less. -/
def powerOf (base : Nat) (q : Quotient) : Nat → Nat → Nat
  | 0, n => n
  | fuel + 1, n => if q.reaches (Nat.pow base (n + 1)) then powerOf base q fuel (n + 1) else n

/-- A number as it is written. -/
def written (style : Style) (places : Nat) (q : Quotient) : Bytes :=
  match style.scale with
  | .none =>
    let places := style.places.getD places
    fixedText (roundedTo q style.rounding places) places style.zeros
  | scale =>
    let base := scale.base
    let power := powerOf base q 40 0
    let q := q.scaled 1 (Nat.pow base power)
    let kept := match style.places with
      | some n => min (3 * power) n
      | none => if q.reaches 10 then 0 else 1
    let q := roundedTo q style.rounding kept
    let (q, power) := if q.reaches base then (q.scaled 1 base, power + 1) else (q, power)
    let hasPoint := q.num != 0 && !q.reaches 10 && 0 < power
    let places := style.places.getD (if hasPoint then 1 else 0)
    let letter : Bytes :=
      if power = 0 then [] else [unitLetters.getD (power - 1) '?']
    fixedText q places style.zeros ++ letter
      ++ if scale = .marked && 0 < power then ['i'] else []

/-! ### Formats -/

/-- A format: what stands around the number, and how it is laid out. -/
structure Form where
  before : Bytes
  after : Bytes
  width : Nat
  left : Bool
  zeros : Nat
  places : Option Nat
  groups : Bool

/-- The text up to a percent sign that is not doubled, and what follows it. -/
def upToPercent : Bytes → Bytes × Option Bytes
  | '%' :: '%' :: s => let (a, b) := upToPercent s; ('%' :: a, b)
  | '%' :: s => ([], some s)
  | c :: s => let (a, b) := upToPercent s; (c :: a, b)
  | [] => ([], none)

/-- The format that a text writes; the error is what is said of it. -/
def form (s : Bytes) : Except Bytes Form := do
  let (before, rest) := upToPercent s
  match rest with
  | none => .error ("format ".toList ++ Quoting.plain s ++ " has no % directive".toList)
  | some r =>
    if r.isEmpty then
      throw ("format ".toList ++ Quoting.plain s ++ " ends in %".toList)
    let flags := r.takeWhile fun c => c == '\'' || c == '0' || c == ' '
    let r := r.drop flags.length
    let (left, r) : Bool × Bytes := match r with
      | '-' :: r => (true, r)
      | r => (false, r)
    let digits := r.takeWhile Char.isDigit
    let width := Text.ofDigits 10 digits
    let r := r.drop digits.length
    let (places, r) : Option Nat × Bytes := match r with
      | '.' :: r =>
        let ds := r.takeWhile Char.isDigit
        (some (Text.ofDigits 10 ds), r.drop ds.length)
      | r => (none, r)
    match r with
    | 'f' :: r =>
      let (after, more) := upToPercent r
      if more.isSome then
        throw ("format ".toList ++ Quoting.plain s ++ " has too many % directives".toList)
      let zeros := flags.contains '0' && !left
      return ⟨before, after, if zeros then 0 else width, left, if zeros then width else 0, places,
        flags.contains '\''⟩
    | _ =>
      throw ("invalid format ".toList ++ Quoting.plain s
        ++ ", directive must be %[0]['][-][N][.][N]f".toList)

/-! ### Lines -/

/-- What is done with every line. -/
structure Task where
  source : Scale
  fromUnit : Nat
  toUnit : Nat
  style : Style
  suffix : Bytes
  /-- A width, and whether numbers stand at its left. -/
  padding : Option (Nat × Bool)
  form : Option Form
  fields : List Columns.Range
  mark : Option Char
  severity : Severity

/-- The most digits in front of the point that a number without a unit may have. -/
def mostDigits : Nat := 18

/-- A field with its number turned. -/
def Task.turned (t : Task) (text : Bytes) (index : Nat) : Except Bytes Bytes :=
  let clean :=
    if !t.suffix.isEmpty && t.suffix.isSuffixOf text && t.suffix.length < text.length then
      text.take (text.length - t.suffix.length)
    else text
  let body := clean.dropWhile isBlankByte
  let automatic := t.padding.isNone && t.mark.isNone && t.form.all (·.width == 0)
    && (body.length < clean.length || 1 < index)
  match read t.source body with
  | .error f => .error (f.message body)
  | .ok (q, places) =>
    let q := q.scaled t.fromUnit t.toUnit
    let places := t.style.places.getD places
    if t.style.scale = .none && q.reaches (Nat.pow 10 (mostDigits + 1 - places)) then
      let shown := Floating.shown .extended [] 'g' 0 none (.finite (q.num < 0) q.size q.den)
      .error ("value too large to be printed: '".toList ++ shown
        ++ "' (consider using --to)".toList)
    else
      let s := written t.style places q ++ t.suffix
      let (width, left) := match t.padding, t.form with
        | some p, _ => p
        | none, some f => (f.width, f.left)
        | none, none => (if automatic then clean.length else 0, false)
      let space := List.replicate (width - s.length) ' '
      let s := if left then s ++ space else space ++ s
      .ok (match t.form with
        | some f => f.before ++ s ++ f.after
        | none => s)

/-- The fields of a line, each with the blanks in front of it. -/
def blankFields : Nat → Bytes → List Bytes
  | 0, _ => []
  | fuel + 1, s =>
    let isGap (c : Char) : Bool := isBlankByte c || c == '\n'
    let gap := s.takeWhile isGap
    let word := (s.drop gap.length).takeWhile (!isGap ·)
    let n := gap.length + word.length
    match s.drop n with
    | [] => [gap ++ word]
    | _ :: rest => (gap ++ word) :: blankFields fuel rest

/-- Write the fields of a line with their numbers turned. Is the work to go on, and were all of them
numbers? -/
def Task.line (t : Task) (name : Bytes) : List (Bytes × Nat) → Shell (Bool × Bool)
  | [] => return (true, true)
  | (part, i) :: rest => do
    let next (clean : Bool) (text : Bytes) : Shell (Bool × Bool) := do
      write 1 (if rest.isEmpty then text else text ++ [t.mark.getD ' '])
      let (goesOn, others) ← t.line name rest
      return (goesOn, clean && others)
    if t.fields.any (·.holds (i + 1)) then
      match t.turned part (i + 1) with
      | .ok text => next true text
      | .error e =>
        if t.severity != .ignore then utilityError name e
        if t.severity = .abort then return (false, false) else next false part
    else next true part

/-- The status for what is no number. -/
def faultStatus : Nat := 2

/-- Turn lines, until one ends the work. Has none done so, and was everything a number? -/
def Task.run (t : Task) (name : Bytes) (ending : Char) : List Bytes → Shell (Bool × Bool)
  | [] => return (true, true)
  | line :: rest => do
    let parts := match t.mark with
      | some c => Bytes.splitAt c line
      | none => blankFields (line.length + 1) line
    let (goesOn, clean) ← t.line name parts.zipIdx
    if goesOn then
      write 1 [ending]
      let (ended, others) ← t.run name ending rest
      return (ended, clean && others)
    else return (false, false)

/-! ### Options -/

def fromLetter : Char := Char.ofNat 256
def toLetter : Char := Char.ofNat 257
def roundLetter : Char := Char.ofNat 258
def suffixLetter : Char := Char.ofNat 259
def paddingLetter : Char := Char.ofNat 260
def fieldLetter : Char := Char.ofNat 261
def formatLetter : Char := Char.ofNat 262
def invalidLetter : Char := Char.ofNat 263
def headerLetter : Char := Char.ofNat 264
def groupingLetter : Char := Char.ofNat 265
def fromUnitLetter : Char := Char.ofNat 266
def toUnitLetter : Char := Char.ofNat 267
def debugLetter : Char := Char.ofNat 268

def forms : List OptionForm :=
  [setting 'd' ["delimiter"], flag 'z' ["zero-terminated"], setting fromLetter ["from"],
   setting toLetter ["to"], setting roundLetter ["round"], setting suffixLetter ["suffix"],
   setting paddingLetter ["padding"], setting fieldLetter ["field"],
   setting formatLetter ["format"], setting invalidLetter ["invalid"],
   variant headerLetter ["header"], flag groupingLetter ["grouping"],
   setting fromUnitLetter ["from-unit"], setting toUnitLetter ["to-unit"],
   flag debugLetter ["debug"]]

/-- Why options cannot be used. -/
inductive Misuse where
  | word (option : String) (given : Bytes) (words : List String)
  | plain (message : Bytes)
  | helped (message : Bytes)

def Misuse.tell (name : Bytes) : Misuse → Shell Nat
  | .word option given words => Repeats.invalidWord name option given words
  | .plain message => do
    utilityError name message
    return 1
  | .helped message => misused name message 1

/-- The meaning of a word that an option has. -/
def meaning {α : Type} (a : Arguments) (letter : Char) (option : String)
    (table : List (String × α)) (usual : α) : Except Misuse α :=
  match a.value? letter with
  | none => .ok usual
  | some w =>
    match table.filter fun e => w.isPrefixOf e.1.toList, table.lookup (String.ofList w) with
    | _, some v => .ok v
    | [(_, v)], none => .ok v
    | _, none => .error (.word option w (table.map (·.1)))

/-- The size of a unit. -/
def unitOf (a : Arguments) (letter : Char) : Except Misuse Nat :=
  match a.value? letter with
  | none => .ok 1
  | some w =>
    let ds := w.takeWhile Char.isDigit
    let n := Text.ofDigits 10 ds
    let unit : Option Nat := match w.drop ds.length with
      | [] => some 1
      | [c] => (unitLetters.idxOf? c).map fun i => Nat.pow 1000 (i + 1)
      | c :: 'i' :: _ => (unitLetters.idxOf? c).map fun i => Nat.pow 1024 (i + 1)
      | _ => none
    match unit with
    | some u =>
      let n := if ds.isEmpty && u != 1 then 1 else n
      if n = 0 then .error (.plain ("invalid unit size: ".toList ++ Quoting.plain w))
      else .ok (n * u)
    | none => .error (.plain ("invalid unit size: ".toList ++ Quoting.plain w))

/-- What options ask for. -/
def taskOf (a : Arguments) : Except Misuse Task := do
  let source ← meaning a fromLetter "--from" scales .none
  let target ← meaning a toLetter "--to" (scales.filter (·.1 != "auto")) .none
  let rounding ← meaning a roundLetter "--round" roundings .fromZero
  let severity ← meaning a invalidLetter "--invalid" severities .abort
  let padding ← match a.value? paddingLetter with
    | none => pure none
    | some w => match Bytes.toInt? w with
      | some n =>
        if n = 0 then throw (.plain ("invalid padding value ".toList ++ Quoting.plain w))
        else pure (some (n.natAbs, decide (n < 0)))
      | none => throw (.plain ("invalid padding value ".toList ++ Quoting.plain w))
  let fields ← match a.value? fieldLetter with
    | none => pure [⟨1, some 1⟩]
    | some ['-'] => pure [⟨1, none⟩]
    | some w => match Columns.rangesOf false w with
      | .ok rs => pure rs
      | .error f => throw (.helped (f.message true))
  let mark ← match a.value? 'd' with
    | none => pure none
    | some [c] => pure (some c)
    | some [] => pure (some '\x00')
    | some _ => throw (.plain "the delimiter must be a single character".toList)
  let fromUnit ← unitOf a fromUnitLetter
  let toUnit ← unitOf a toUnitLetter
  let layout ← match a.value? formatLetter with
    | none => pure none
    | some s => match form s with
      | .ok f => pure (some f)
      | .error e => throw (.plain e)
  if a.has groupingLetter && layout.isSome then
    throw (.plain "--grouping cannot be combined with --format".toList)
  if (a.has groupingLetter || layout.any (·.groups)) && target != .none then
    throw (.plain "grouping cannot be combined with --to".toList)
  let style : Style := ⟨target, rounding, layout.bind (·.places), (layout.map (·.zeros)).getD 0⟩
  return { source := source, fromUnit := fromUnit, toUnit := toUnit, style := style
           suffix := (a.value? suffixLetter).getD [], padding := padding, form := layout
           fields := fields, mark := mark, severity := severity }

/-- How many lines at the front are left as they are. -/
def headerOf (a : Arguments) : Except Misuse Nat :=
  match a.value? headerLetter with
  | none => .ok 0
  | some [] => .ok 1
  | some w => match Bytes.toNat? w with
    | some n =>
      if n = 0 then .error (.plain ("invalid header value ".toList ++ Quoting.plain w)) else .ok n
    | none => .error (.plain ("invalid header value ".toList ++ Quoting.plain w))

end Figures

open Figures in
def numfmt : Utility := withOptions Figures.forms fun name a => do
  match taskOf a, headerOf a with
  | .error m, _ | .ok _, .error m => m.tell name
  | .ok t, .ok header =>
    if a.has debugLetter && t.source = .none && t.style.scale = .none && t.padding.isNone
        && t.form.isNone && !a.has groupingLetter then
      utilityError name "no conversion option specified".toList
    let ending := if a.has 'z' then '\x00' else '\n'
    let text ← if a.operands.isEmpty then readInput else pure (.ok [])
    if let .error e := text then
      utilityError name ("error reading input: ".toList ++ reasonText e)
      return 1
    let read := piecesAt ending (text.toOption.getD [])
    let (front, lines) := if a.operands.isEmpty then (read.take header, read.drop header)
      else ([], a.operands)
    write 1 (front.flatMap fun l => l ++ [ending])
    let (ended, clean) ← t.run name ending lines
    return if !ended || (!clean && t.severity = .fail) then faultStatus else 0

end SvgSkeleton.Shell
