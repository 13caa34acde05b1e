import SvgSkeleton.Shell.Whole
import SvgSkeleton.Shell.Utility.Options

/-!
Utilities that care for the columns of a text: `fold` breaks long lines, `expand` and `unexpand`
change tabs into blanks and blanks into tabs.
-/

namespace SvgSkeleton.Shell.Layout

/-! ### Breaking lines -/

/-- The column behind a byte at a column. -/
def columnAfter (bytes : Bool) (column : Nat) (c : Char) : Nat :=
  if bytes then column + 1
  else if c = '\x08' then column - 1
  else if c = '\r' then 0
  else if c = '\t' then column + 8 - column % 8
  else column + 1

/-- How lines are broken. -/
structure Fold where
  width : Nat
  bytes : Bool
  atBlanks : Bool

/-- The column behind a text. -/
def Fold.columnOf (f : Fold) (s : Bytes) : Nat := s.foldl (columnAfter f.bytes) 0

/-- A line in pieces. The state is what the piece at hand holds, latest byte first. -/
def Fold.pieces (f : Fold) : Nat → Bytes → Bytes → List Bytes
  | 0, held, rest => [held.reverse ++ rest]
  | _ + 1, held, [] => if held.isEmpty then [] else [held.reverse]
  | fuel + 1, held, c :: r =>
    if columnAfter f.bytes (f.columnOf held.reverse) c ≤ f.width || held.isEmpty then
      f.pieces fuel (c :: held) r
    else
      let tail := held.takeWhile (!isBlankByte ·)
      if f.atBlanks && tail.length < held.length then
        (held.drop tail.length).reverse :: f.pieces fuel tail (c :: r)
      else held.reverse :: f.pieces fuel [] (c :: r)

/-- A line with line feeds between its pieces. -/
def Fold.line (f : Fold) (line : Bytes) : Bytes :=
  let body := Bytes.chomp line
  let pieces := f.pieces (3 * body.length + 3) [] body
  Bytes.join ['\n'] pieces ++ line.drop body.length

def foldForms : List OptionForm :=
  [flag 'b' ["bytes"], flag 's' ["spaces"], setting 'w' ["width"]]

/-- The arguments with a number behind a dash as the width. -/
def widthFirst (args : List Bytes) : List Bytes :=
  args.map fun a =>
    match a with
    | '-' :: c :: r => if c.isDigit && r.all Char.isDigit then '-' :: 'w' :: c :: r else a
    | _ => a

/-! ### Tabs -/

/-- Where the columns are that tabs lead to. -/
structure Stops where
  /-- The columns that are given, in ascending order. -/
  columns : List Nat
  /-- How far apart those behind them are; none follow if there is no such number. -/
  every : Option Nat
  /-- Is the distance counted from the last column that is given? -/
  fromLast : Bool

/-- The next column that a tab at a column leads to. -/
def Stops.next? (s : Stops) (column : Nat) : Option Nat :=
  match s.columns.find? (column < ·) with
  | some c => some c
  | none => s.every.map fun n =>
    let start := if s.fromLast then s.columns.getLast?.getD 0 else 0
    column + (n - (column - start) % n)

/-- What is wrong with a list of columns. -/
inductive Fault where
  | characters (text : Bytes)
  | zero
  | descending
  | large (text : Bytes)
  | notLast (mark : Char)
  | notAtStart (mark : Char) (text : Bytes)
  deriving DecidableEq

def Fault.message : Fault → Bytes
  | .characters text => "tab size contains invalid character(s): ".toList ++ Quoting.plain text
  | .zero => "tab size cannot be 0".toList
  | .descending => "tab sizes must be ascending".toList
  | .large text => "tab stop is too large ".toList ++ Quoting.plain text
  | .notLast mark => ['\'', mark, '\'']
    ++ " specifier only allowed with the last value".toList
  | .notAtStart mark text => ['\'', mark, '\'']
    ++ " specifier not at start of number: ".toList ++ Quoting.plain text

/-- A word of a list of columns: a mark in front, and a number. -/
def stop? (word : Bytes) : Except Fault (Option Char × Option Nat) :=
  let (mark, rest) := match word with
    | '/' :: r => (some '/', r)
    | '+' :: r => (some '+', r)
    | r => (none, r)
  let digits := rest.takeWhile Char.isDigit
  match rest.drop digits.length with
  | [] =>
    if digits.isEmpty then .ok (mark, none)
    else if 18 < digits.length then .error (.large digits)
    else .ok (mark, some (Text.ofDigits 10 digits))
  | c :: r =>
    if (c = '/' || c = '+') && !digits.isEmpty then .error (.notAtStart c (c :: r))
    else .error (.characters (c :: r))

/-- The columns that a list of words names. -/
def Stops.ofWords (words : List Bytes) : Except Fault Stops := do
  let stops ← words.mapM stop?
  let plain := stops.filterMap fun s => if s.1.isNone then s.2 else none
  let marked := stops.filterMap fun s => match s with
    | (some mark, some n) => some (mark, n)
    | _ => none
  if 1 < marked.length then .error (.notLast (marked.headD ('/', 0)).1)
  else if !marked.isEmpty && (stops.getLast?.bind (·.1)).isNone then
    .error (.notLast (marked.headD ('/', 0)).1)
  else if plain.contains 0 then .error .zero
  else if !(plain.zip plain.tail).all fun p => p.1 < p.2 then .error .descending
  else
    match plain, marked with
    | [], [] => return ⟨[], some 8, false⟩
    | [n], [] => return ⟨[], some n, false⟩
    | columns, [] => return ⟨columns, none, false⟩
    | columns, (mark, n) :: _ =>
      return ⟨columns, if n = 0 then none else some n, mark = '+'⟩

/-- The words of a list of columns. -/
def stopWords (s : Bytes) : List Bytes :=
  (Bytes.splitAt ',' (s.map fun c => if c = ' ' || c = '\t' then ',' else c)).filter (!·.isEmpty)

/-- A line with blanks in place of tabs. The states are the column, and whether tabs are still
changed. -/
def expanded (stops : Stops) (everywhere : Bool) : Nat → Bool → Bytes → Bytes
  | _, _, [] => []
  | _, false, s => s
  | column, true, c :: r =>
    if c = '\t' then
      let goal := (stops.next? column).getD (column + 1)
      List.replicate (goal - column) ' ' ++ expanded stops everywhere goal true r
    else
      let column := if c = '\x08' then column - 1 else column + 1
      c :: expanded stops everywhere column (everywhere || isBlankByte c) r

/-- What is known within a line whose blanks become tabs: the column, blanks that are held back, is
the first of them one just before a column that tabs lead to, and was the last byte a blank? -/
structure Gap where
  column : Nat
  held : Bytes
  oneBefore : Bool
  afterBlank : Bool

/-- The blanks that were held back. -/
def Gap.flush (g : Gap) : Bytes :=
  if 1 < g.held.length && g.oneBefore then '\t' :: g.held.drop 1 else g.held

/-- A line with tabs in place of blanks. -/
def unexpanded (stops : Stops) (everywhere : Bool) : Gap → Bytes → Bytes
  | g, [] => g.flush
  | g, c :: r =>
    if isBlankByte c then
      match stops.next? g.column with
      | none => g.flush ++ c :: r
      | some goal =>
        if c = '\t' then
          let held := if g.oneBefore && !g.held.isEmpty then ['\t'] else []
          held ++ '\t' :: unexpanded stops everywhere ⟨goal, [], false, true⟩ r
        else if g.afterBlank && g.column + 1 = goal then
          let held := if g.oneBefore && !g.held.isEmpty then ['\t'] else []
          held ++ '\t' :: unexpanded stops everywhere ⟨goal, [], false, true⟩ r
        else
          unexpanded stops everywhere
            ⟨g.column + 1, g.held ++ [c], g.oneBefore || g.column + 1 = goal, true⟩ r
    else
      let column := if c = '\x08' then g.column - 1 else g.column + 1
      if everywhere then
        g.flush ++ c :: unexpanded stops everywhere ⟨column, [], false, false⟩ r
      else g.flush ++ c :: r

/-- The arguments with numbers behind a dash as columns. -/
def stopsFirst (args : List Bytes) : List Bytes :=
  args.map fun a =>
    match a with
    | '-' :: c :: r =>
      if c.isDigit && r.all fun c => c.isDigit || c == ',' then '-' :: 't' :: c :: r else a
    | _ => a

/-- The columns that options name. -/
def stopsOf (a : Arguments) : Except Fault Stops :=
  Stops.ofWords (a.options.flatMap fun o => if o.1 = 't' then stopWords o.2 else [])

/-- Change every line of the operands. -/
def overLines (name : Bytes) (a : Arguments) (change : Stops → Bytes → Bytes) : Shell Nat := do
  match stopsOf a with
  | .error fault =>
    utilityError name fault.message
    return 1
  | .ok stops =>
    forOperands name a.operands fun _ content =>
      write 1 ((Bytes.lines content).flatMap fun line =>
        let body := Bytes.chomp line
        change stops body ++ line.drop body.length)

def fold : Utility := fun name args =>
  withOptions foldForms (fun name a => do
    let width := (a.value? 'w').getD ['8', '0']
    match Amount.natWithin 1 ((1 <<< 63) - 1) width with
    | .ok n =>
      forOperands name a.operands fun _ content =>
        write 1 ((Bytes.lines content).flatMap (Fold.line ⟨n, a.has 'b', a.has 's'⟩))
    | .error fault =>
      utilityError name ("invalid number of columns: ".toList ++ Quoting.plain width ++ fault.note)
      return 1) name (widthFirst args)

def expand : Utility := fun name args =>
  withOptions [flag 'i' ["initial"], setting 't' ["tabs"]] (fun name a =>
    overLines name a fun stops line =>
      expanded stops (!a.has 'i') 0 true line) name (stopsFirst args)

def firstOnlyLetter : Char := Char.ofNat 256

def unexpand : Utility := fun name args =>
  withOptions [flag 'a' ["all"], flag firstOnlyLetter ["first-only"], setting 't' ["tabs"]]
    (fun name a =>
      let everywhere := (a.has 'a' || a.has 't') && !a.has firstOnlyLetter
      overLines name a fun stops line =>
        unexpanded stops everywhere ⟨0, [], false, true⟩ line) name (stopsFirst args)

end SvgSkeleton.Shell.Layout
