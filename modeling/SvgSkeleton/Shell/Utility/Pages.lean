import SvgSkeleton.Shell.Utility.System

/-!
`pr`: texts on pages, in one column or in several ones. Columns are filled one after the other, or
row by row, or each with a file of its own. Blanks are held back until something follows them, so
that they can become tabs.
-/

namespace SvgSkeleton.Shell.Pages

/-- How bytes are shown that cannot be printed. -/
inductive Shows where
  | plain
  | octal
  | caret
  deriving DecidableEq

/-- How lines are numbered: what stands behind a number, and how many digits it has. -/
structure Numbering where
  separator : Char
  digits : Nat

/-- A tab: the character that means it, and how far apart its stops are. -/
structure Tab where
  character : Char
  width : Nat

/-- The columns from a place to the next stop. -/
def Tab.reach (t : Tab) (place : Int) : Int := t.width - place % t.width

structure Style where
  columns : Nat
  /-- Has each file a column of its own? -/
  merges : Bool
  /-- Are columns filled one after the other? -/
  stores : Bool
  bodyLines : Nat
  /-- Have pages heads and feet? -/
  framed : Bool
  keepsFeeds : Bool
  doubled : Bool
  separator : Bytes
  separates : Bool
  truncates : Bool
  numbering : Option Numbering
  /-- The columns that a number takes, with what stands behind it. -/
  numberWidth : Nat
  columnWidth : Nat
  margin : Nat
  inputTab : Tab
  expands : Bool
  outputTab : Tab
  shrinks : Bool
  shows : Shows
  byFeed : Bool
  pageWidth : Nat

inductive Status where
  | opened
  | atFeed
  | held
  | closed
  deriving DecidableEq

/-- A line that waits to be printed, and the column behind it. -/
structure Line where
  text : Bytes
  ends : Int

structure Column where
  /-- Which of the texts fills it. -/
  source : Nat
  status : Status
  /-- How many lines it may still show on the page. -/
  left : Nat
  stored : List Line
  /-- Where it starts, with the separator in front of it; nothing if that is not settled. -/
  start : Nat
  numbered : Bool
  /-- Has it filled a page to its end? -/
  filled : Bool

/-- The state of a press at work. -/
structure Press where
  style : Style
  /-- The head of a page with a number. -/
  head : Nat → Bytes
  texts : Array Bytes
  columns : Array Column
  /-- What has been printed, the latest piece first. -/
  printed : List Bytes
  /-- What has been stored of a line, the latest byte first. -/
  held : Bytes
  position : Int
  /-- The blanks, separators and columns that wait to be printed. -/
  blanks : Int
  separators : Nat
  padding : Nat
  /-- The column in the line that is read. -/
  column : Int
  number : Int
  page : Nat
  headDue : Bool
  feedDue : Bool
  onlyFeed : Bool
  isEmpty : Bool
  aligns : Bool
  /-- Does the line that is printed need an end? -/
  open_ : Bool
  /-- How many texts can be read. -/
  ready : Int

abbrev Work := StateM Press

/-! ### Printing -/

def emit (s : Bytes) : Work Unit := modify fun p => { p with printed := s :: p.printed }

/-- Print the blanks that wait, as tabs as far as they reach a stop. -/
def printBlanks : Work Unit := do
  let p ← get
  let goal := p.position + p.blanks
  let tab := p.style.outputTab
  let rec tabs : Nat → Int → Bytes × Int
    | 0, place => ([], place)
    | fuel + 1, place =>
      let next := place + tab.reach place
      if goal - place > 1 && next ≤ goal then
        let (s, place) := tabs fuel next
        (tab.character :: s, place)
      else ([], place)
  let (s, place) := tabs p.blanks.toNat p.position
  emit (s ++ List.replicate (goal - place).toNat ' ')
  modify fun p => { p with position := goal, blanks := 0 }

def isPrintable (c : Char) : Bool := ' ' ≤ c && c ≤ '~'

def printByte (c : Char) : Work Unit := do
  let p ← get
  if p.style.shrinks then
    if c = ' ' then
      set { p with blanks := p.blanks + 1 }
      return ()
    if 0 < p.blanks then printBlanks
    modify fun p =>
      if isPrintable c then { p with position := p.position + 1 }
      else if c = '\x08' then { p with position := p.position - 1 }
      else p
  emit [c]

/-- Print a byte, or store it. -/
def put (stores : Bool) (c : Char) : Work Unit :=
  if stores then modify fun p => { p with held := c :: p.held } else printByte c

/-- Go on to a column. -/
def padTo (goal : Int) : Work Unit := do
  let p ← get
  if p.style.shrinks then set { p with blanks := goal - p.position }
  else
    emit (List.replicate (goal - p.position).toNat ' ')
    modify fun p => { p with position := goal }

/-- Print the separator that waits in front of a column. -/
def printSeparator : Work Unit := do
  let p ← get
  if p.separators = 0 then
    if 0 < p.blanks then printBlanks
  else
    p.style.separator.forM fun c => do
      if c = ' ' then modify fun p => { p with blanks := p.blanks + 1 }
      else
        if 0 < (← get).blanks then printBlanks
        emit [c]
        modify fun p => { p with position := p.position + 1 }
    if 0 < (← get).blanks then printBlanks
    modify fun p => { p with separators := 0 }

/-- Go to where a column starts. -/
def approach : Work Unit := do
  let p ← get
  let width := p.style.separator.length
  if width < p.padding then
    padTo (p.padding - width)
    modify fun p => { p with padding := 0 }
  if p.style.separates then printSeparator

/-- Print the head of a page. -/
def printHead : Work Unit := do
  modify fun p => { p with position := 0 }
  padTo (← get).style.margin
  printBlanks
  let p ← get
  emit (p.head p.page)
  set { ← get with page := p.page + 1, headDue := false, position := 0 }

/-- Print or store the number of a line. -/
def addNumber (stores : Bool) : Work Unit := do
  let p ← get
  let some numbering := p.style.numbering | return ()
  let written := Bytes.padLeft numbering.digits (Bytes.ofInt p.number)
  set { p with number := p.number + 1 }
  (written.drop (written.length - numbering.digits)).forM (put stores)
  if 1 < p.style.columns then
    if numbering.separator = '\t' then
      (List.replicate (p.style.numberWidth - numbering.digits) ' ').forM (put stores)
    else put stores numbering.separator
  else
    put stores numbering.separator
    if numbering.separator = '\t' then
      modify fun p => { p with position := p.position + p.style.outputTab.reach p.position }
  if p.style.truncates && !p.style.merges then
    modify fun p => { p with column := p.column + p.style.numberWidth }

/-! ### Reading -/

def columnAt (i : Nat) : Work Column := do
  return ((← get).columns[i]?).getD ⟨0, .closed, 0, [], 0, false, false⟩

def changeColumn (i : Nat) (f : Column → Column) : Work Unit := modify fun p =>
  { p with columns := p.columns.modify i f }

def changeColumns (f : Column → Column) : Work Unit := modify fun p =>
  { p with columns := p.columns.map f }

/-- The next byte of a text. -/
def next? (source : Nat) : Work (Option Char) := do
  let p ← get
  match p.texts[source]?.getD [] with
  | [] => return none
  | c :: r =>
    set { p with texts := p.texts.setIfInBounds source r }
    return some c

/-- Pass over a line feed. -/
def passFeed (source : Nat) : Work Unit := modify fun p =>
  match p.texts[source]?.getD [] with
  | '\n' :: r => { p with texts := p.texts.setIfInBounds source r }
  | _ => p

/-- A text has come to its end. -/
def close (i : Nat) : Work Unit := do
  if (← columnAt i).status = .closed then return ()
  if (← get).style.merges then
    changeColumn i fun c => { c with status := .closed, left := 0 }
  else
    changeColumns fun c =>
      { c with status := .closed, left := if c.stored.isEmpty then 0 else c.left }
  modify fun p => { p with ready := p.ready - 1 }

/-- A text has come to the end of a page. -/
def hold (i : Nat) : Work Unit := do
  let p ← get
  if p.style.merges then changeColumn i fun c => { c with status := .held }
  else changeColumns fun c => { c with status := if p.style.stores then .atFeed else .held }
  changeColumn i fun c => { c with left := 0 }
  modify fun p => { p with ready := p.ready - 1 }

/-- The text that a byte of the input becomes; the column moves on. -/
def shownByte (c : Char) : Work Bytes := do
  let p ← get
  let style := p.style
  let tab : Tab := if c = style.inputTab.character then style.inputTab else ⟨c, 8⟩
  let octal : Bytes :=
    let digits := Nat.toDigits 8 c.toNat
    '\\' :: List.replicate (3 - digits.length) '0' ++ digits
  let (text, width) : Bytes × Int :=
    if c = style.inputTab.character || c = '\t' then
      let width := tab.reach p.column
      (if style.expands then List.replicate width.toNat ' ' else [c], width)
    else if isPrintable c then ([c], 1)
    else if style.shows = .octal || (style.shows = .caret && 128 ≤ c.toNat) then (octal, 4)
    else if style.shows = .caret then (['^', Char.ofNat (c.toNat ^^^ 64)], 2)
    else ([c], if c = '\x08' then -1 else 0)
  if width < 0 && p.column ≤ 0 then
    set { p with column := 0 }
    return []
  set { p with column := if width < 0 && p.column ≤ -width then 0 else p.column + width }
  return text

/-- Does the line that is read reach beyond its column? -/
def isBeyond : Work Bool := do
  let p ← get
  return p.style.truncates && p.column > p.style.columnWidth

/-- Go to where a column without a line starts. -/
def alignColumn (i : Nat) : Work Unit := do
  let c ← columnAt i
  modify fun p => { p with padding := c.start }
  approach
  if c.numbered then addNumber false

/-- Begin a line that is printed at once. -/
def beginLine (i : Nat) : Work Unit := do
  modify fun p => { p with open_ := true }
  let p ← get
  if p.headDue && !p.style.stores then printHead
  if p.style.merges && p.aligns then
    let count := p.separators
    modify fun p => { p with separators := 0 }
    (List.range count).forM fun j => do
      alignColumn j
      modify fun p => { p with separators := p.separators + 1 }
    let start := (← columnAt i).start
    modify fun p =>
      { p with padding := start, aligns := false
               blanks := if p.style.truncates then p.style.columnWidth else 0 }
  approach

/-- Read the rest of a line, and put it where it belongs. The result is false if the line goes on
beyond its column. -/
def readOn (i source : Nat) (stores : Bool) : Nat → Work Bool
  | 0 => return true
  | fuel + 1 => do
    match ← next? source with
    | none =>
      close i
      return true
    | some '\n' => return true
    | some '\x0c' =>
      passFeed source
      modify fun p => { p with feedDue := p.feedDue || p.style.keepsFeeds }
      hold i
      return true
    | some c =>
      let before := (← get).column
      let text ← shownByte c
      if ← isBeyond then
        modify fun p => { p with column := before }
        return false
      text.forM (put stores)
      readOn i source stores fuel

/-- How long all texts are. -/
def fuelOf : Work Nat := do
  return (← get).texts.foldl (fun n s => n + s.length) 2

/-- Read a line. The result is false if the line goes on beyond its column. -/
def readLine (i : Nat) (stores : Bool) : Work Bool := do
  let column ← columnAt i
  let source := column.source
  let first ← do
    match ← next? source with
    | some '\x0c' =>
      if column.filled then
        match ← next? source with
        | some '\n' => next? source
        | c => pure c
      else pure (some '\x0c')
    | c => pure c
  changeColumn i fun c => { c with filled := false }
  let before := (← get).column
  match first with
  | some '\x0c' =>
    passFeed source
    modify fun p => { p with onlyFeed := true }
    let p ← get
    if p.headDue && !p.style.stores then
      modify fun p => { p with open_ := true }
      printHead
    else modify fun p => { p with feedDue := p.feedDue || p.style.keepsFeeds }
    hold i
    return true
  | none =>
    close i
    return true
  | some c =>
    let text ← if c = '\n' then pure [] else shownByte c
    if ← isBeyond then
      modify fun p => { p with column := before }
      return false
    unless stores do beginLine i
    if column.numbered then addNumber stores
    modify fun p => { p with isEmpty := false }
    if c = '\n' then return true
    text.forM (put stores)
    readOn i source stores (← fuelOf)

/-- Pass over the rest of a line that is too long. -/
def skipRest (i source : Nat) : Nat → Work Unit
  | 0 => return ()
  | fuel + 1 => do
    match ← next? source with
    | none => close i
    | some '\n' => return ()
    | some '\x0c' =>
      passFeed source
      modify fun p => { p with feedDue := p.feedDue || p.style.keepsFeeds }
      hold i
    | some _ => skipRest i source fuel

/-- Read a line to its end. -/
def readWhole (i : Nat) (stores : Bool) : Work Unit := do
  unless ← readLine i stores do skipRest i (← columnAt i).source (← fuelOf)

/-! ### Pages -/

/-- Store lines for a column. The result is what has been stored, latest first. -/
def storeColumn (i : Nat) : Nat → List Line → Work (List Line)
  | 0, lines => return lines
  | n + 1, lines => do
    let p ← get
    if p.ready ≤ 0 then return lines
    if (← columnAt i).status != .opened then storeColumn i n lines
    else
      modify fun p => { p with column := 0, held := [] }
      readWhole i true
      let p ← get
      if (← columnAt i).status = .opened || !p.held.isEmpty then
        storeColumn i n (⟨p.held.reverse, p.column⟩ :: lines)
      else storeColumn i n lines

/-- Store the lines of a page, and deal them out evenly. -/
def storePage : Work Unit := do
  let style := (← get).style
  changeColumns fun c => { c with stored := [] }
  let lines ← (List.range style.columns).foldlM (fun lines i => do
    if (← get).ready ≤ 0 then return lines
    let more ← storeColumn i style.bodyLines []
    unless more.isEmpty do changeColumn i fun c => { c with stored := more }
    return lines ++ more.reverse) ([] : List Line)
  let share := lines.length / style.columns
  let extra := lines.length % style.columns
  (List.range style.columns).forM fun i => do
    let size := if i < extra then share + 1 else share
    let first := i * share + min i extra
    changeColumn i fun c => { c with stored := (lines.drop first).take size, left := size }

/-- Print a line that has been stored. -/
def printStored (i : Nat) : Work Unit := do
  let column ← columnAt i
  modify fun p => { p with open_ := true }
  if (← get).headDue then printHead
  if column.status = .atFeed then
    changeColumns fun c => { c with status := .held }
    if (← columnAt 0).left = 0 then
      modify fun p => { p with open_ := p.style.framed }
      return ()
  match column.stored with
  | [] => return ()
  | line :: rest =>
    changeColumn i fun c => { c with stored := rest }
    approach
    line.text.forM printByte
    modify fun p =>
      let width := p.style.separator.length
      if p.blanks = 0 then
        let place := column.start + line.ends
        { p with position := if column.start = p.style.margin + width then place - width
                             else place }
      else p

/-- How many columns have something to show. -/
def readyColumns : Work Nat := do
  let p ← get
  return (p.columns.filter fun c => c.status = .opened || c.status = .atFeed
    || (p.style.stores && !c.stored.isEmpty && 0 < c.left)).size

/-- Print a line of a column, or the gap that it leaves. The result says whether the line of the
page goes on. -/
def printColumn (i : Nat) : Work Bool := do
  modify fun p => { p with column := 0 }
  let column ← columnAt i
  if 0 < column.left || column.status = .atFeed then
    modify fun p => { p with onlyFeed := false, padding := column.start }
    if (← get).style.stores then printStored i else readWhole i false
    changeColumn i fun c => { c with left := c.left - 1 }
    let column ← columnAt i
    if column.left = 0 && (← readyColumns) = 0 then return false
    let p ← get
    if p.style.merges && column.status != .opened then
      if p.isEmpty then modify fun p => { p with aligns := true }
      else if column.status = .closed || (column.status = .held && p.onlyFeed) then alignColumn i
  else if (← get).style.merges then
    if (← get).isEmpty then modify fun p => { p with aligns := true }
    else alignColumn i
  if (← get).style.separates then
    modify fun p => { p with separators := p.separators + 1 }
  return true

/-- Print a line of all columns from one on. -/
def printColumns : List Nat → Work Unit
  | [] => return ()
  | i :: rest => do
    if ← printColumn i then printColumns rest

/-- Print the lines of a page. The results are how many lines are left on it, and whether something
has been printed. -/
def printLines : Nat → Int → Bool → Work (Int × Bool)
  | 0, left, printed => return (left, printed)
  | fuel + 1, left, printed => do
    if left ≤ 0 || (← readyColumns) = 0 then return (left, printed)
    modify fun p => { p with
      position := 0, blanks := 0, separators := 0, open_ := false, aligns := false
      isEmpty := true }
    let style := (← get).style
    printColumns (List.range style.columns)
    let p ← get
    let printed := printed || p.open_
    if p.open_ then emit ['\n']
    let left := if p.open_ then left - 1 else left
    if (← readyColumns) = 0 && !style.framed then return (left, printed)
    if style.doubled && printed then
      emit ['\n']
      printLines fuel (left - 1) printed
    else printLines fuel left printed

/-- How many lines the foot of a page has. -/
def footLines : Nat := 5

/-- Print a page; false if there is none any more. -/
def printPage : Work Bool := do
  let style := (← get).style
  if style.stores then storePage
  else changeColumns fun c =>
    { c with left := if c.status = .opened then style.bodyLines else 0 }
  if (← readyColumns) = 0 then return false
  modify fun p => { p with headDue := p.headDue || style.framed, open_ := false }
  let lines : Nat := if style.doubled then 2 * style.bodyLines else style.bodyLines
  let (left, printed) ← printLines (2 * lines + 2) lines false
  if left = 0 then
    changeColumns fun c => { c with filled := c.filled || c.status = .opened }
  let p ← get
  if printed && style.framed then
    emit (if style.byFeed then ['\x0c'] else List.replicate (left + footLines).toNat '\n')
  else if style.keepsFeeds && p.feedDue then
    emit ['\x0c']
    modify fun p => { p with feedDue := false }
  let p ← get
  let waiting := (p.columns.filter (·.status == .held)).size
  changeColumns fun c => { c with status := if c.status = .held then .opened else c.status }
  let ready := if style.stores then
      (if (p.columns[0]?).any (·.status == .closed) then 0 else 1) else p.ready + waiting
  modify fun p => { p with ready := ready }
  return true

/-- Print pages up to one with a number. -/
def printPages (lastPage : Option Nat) : Nat → Work Unit
  | 0 => return ()
  | fuel + 1 => do
    if ← printPage then
      if lastPage.all ((← get).page ≤ ·) then printPages lastPage fuel

/-! ### Options -/

def longLetter (n : Nat) : Char := Char.ofNat (256 + n)

def pagesLetter : Char := longLetter 0

def columnsLetter : Char := longLetter 1

def forms : List OptionForm :=
  switches "0123456789" ++
  [setting pagesLetter ["pages"], setting columnsLetter ["columns"], flag 'a' ["across"],
   flag 'b' [], flag 'c' ["show-control-chars"], flag 'd' ["double-space"],
   setting 'D' ["date-format"], variant 'e' ["expand-tabs"], flag 'f' [], flag 'F' ["form-feed"],
   setting 'h' ["header"], variant 'i' ["output-tabs"], flag 'J' ["join-lines"],
   setting 'l' ["length"], flag 'm' ["merge"], variant 'n' ["number-lines"],
   setting 'N' ["first-line-number"], setting 'o' ["indent"], flag 'r' ["no-file-warnings"],
   variant 's' ["separator"], variant 'S' ["sep-string"], flag 't' ["omit-header"],
   flag 'T' ["omit-pagination"], flag 'v' ["show-nonprinting"], setting 'w' ["width"],
   setting 'W' ["page-width"]]

/-- What is asked for. -/
structure Wish where
  pages : Option (Nat × Option Nat)
  columns : Option Nat
  across : Bool
  merges : Bool
  doubled : Bool
  dateForm : Bytes
  inputTab : Tab
  expands : Bool
  outputTab : Tab
  shrinks : Bool
  byFeed : Bool
  title : Option Bytes
  joins : Bool
  length : Nat
  numbering : Option Numbering
  first : Option Int
  margin : Nat
  quiet : Bool
  /-- Was a separator asked for in the old way, and does it count? -/
  oldSeparator : Bool
  oldWidth : Bool
  separator : Bytes
  separates : Bool
  framed : Bool
  keepsFeeds : Bool
  shows : Shows
  width : Nat
  truncates : Bool

def Wish.start : Wish :=
  ⟨none, none, false, false, false, "%Y-%m-%d %H:%M".toList, ⟨'\t', 8⟩, false, ⟨'\t', 8⟩, false,
   false, none, false, 66, none, none, 0, false, false, false, [], false, true, false, .plain, 72,
   false⟩

/-- What is wrong with an option; the second kind points to the help. -/
inductive Fault where
  | plain (message : Bytes)
  | offering (message : Bytes)

/-- A number that is not below a bound. -/
def number (least : Int) (what : String) (s : Bytes) : Except Fault Int :=
  match Bytes.toInt? (s.dropWhile isSpaceByte) with
  | some n =>
    if least ≤ n && n < Int.pow 2 31 then .ok n
    else
      let reason := if n < Int.pow 2 31 then "Numerical result out of range"
        else "Value too large for defined data type"
      .error (.plain (what.toList ++ ": ".toList ++ Quoting.plain s ++ ": ".toList
        ++ reason.toList))
  | none => .error (.plain (what.toList ++ ": ".toList ++ Quoting.plain s))

/-- A character and a number, either of which may be missing. -/
def characterAndNumber (letter : Char) (s : Bytes) (c : Char) (n : Nat) :
    Except Fault (Char × Nat) :=
  let (c, digits) := match s with
    | d :: r => if d.isDigit then (c, s) else (d, r)
    | [] => (c, [])
  if digits.isEmpty then .ok (c, n)
  else
    match Bytes.toInt? digits with
    | some n => if 0 < n && n < Int.pow 2 31 then .ok (c, n.toNat) else fault digits
    | none => fault digits
where
  fault (s : Bytes) : Except Fault (Char × Nat) :=
    .error (.offering (['\'', '-', letter, '\'']
      ++ " extra characters or invalid number in the argument: ".toList ++ Quoting.plain s))

/-- The pages from one to another one. -/
def range? (s : Bytes) : Option (Nat × Option Nat) :=
  match Bytes.splitAt ':' s with
  | [a] => (Bytes.toNat? a).bind fun n => if 0 < n then some (n, none) else none
  | [a, b] =>
    match Bytes.toNat? a, Bytes.toNat? b with
    | some n, some m => if 0 < n && n ≤ m then some (n, some m) else none
    | _, _ => none
  | _ => none

/-- The wish with an option. -/
def Wish.with (w : Wish) (option : Char) (text : Bytes) : Except Fault Wish := do
  match option with
  | 'a' => return { w with across := true }
  | 'c' => return { w with shows := .caret }
  | 'd' => return { w with doubled := true }
  | 'D' => return { w with dateForm := text }
  | 'e' =>
    let (c, n) ← characterAndNumber 'e' text w.inputTab.character w.inputTab.width
    return { w with inputTab := ⟨c, n⟩, expands := true }
  | 'f' | 'F' => return { w with byFeed := true }
  | 'h' => return { w with title := some text }
  | 'i' =>
    let (c, n) ← characterAndNumber 'i' text w.outputTab.character w.outputTab.width
    return { w with outputTab := ⟨c, n⟩, shrinks := true }
  | 'J' => return { w with joins := true }
  | 'l' =>
    return { w with length := (← number 1 "'-l PAGE_LENGTH' invalid number of lines" text).toNat }
  | 'm' => return { w with merges := true }
  | 'n' =>
    let old := w.numbering.getD ⟨'\t', 5⟩
    let (c, n) ← characterAndNumber 'n' text old.separator old.digits
    return { w with numbering := some ⟨c, n⟩ }
  | 'N' =>
    return { w with first := some (← number (-Int.pow 2 31)
      "'-N NUMBER' invalid starting line number" text) }
  | 'o' => return { w with margin := (← number 0 "'-o MARGIN' invalid line offset" text).toNat }
  | 'r' => return { w with quiet := true }
  | 's' =>
    let separator := if w.separates || text.isEmpty then w.separator else text
    return { w with oldSeparator := true, separator := separator }
  | 'S' => return { w with oldSeparator := false, separates := true, separator := text }
  | 't' => return { w with framed := false, keepsFeeds := true }
  | 'T' => return { w with framed := false, keepsFeeds := false }
  | 'v' => return { w with shows := .octal }
  | 'w' =>
    let n ← number 1 "'-w PAGE_WIDTH' invalid number of characters" text
    return { w with oldWidth := true, width := if w.truncates then w.width else n.toNat }
  | 'W' =>
    let n ← number 1 "'-W PAGE_WIDTH' invalid number of characters" text
    return { w with oldWidth := false, truncates := true, width := n.toNat }
  | c =>
    if c = columnsLetter then
      return { w with columns := some (← number 1 "invalid number of columns" text).toNat }
    else if c = pagesLetter then
      match range? text with
      | some pages => return { w with pages := some pages }
      | none => .error (.plain ("invalid --pages argument ".toList ++ Quoting.plain text))
    else return w

/-- The last number that options write that are digits. -/
def lastDigits (options : List Char) : Bytes :=
  let behind := options.reverse.dropWhile (!·.isDigit)
  (behind.takeWhile Char.isDigit).reverse

/-- What options and operands ask for, and the files. -/
def wishOf (a : Arguments) : Except Fault (Wish × List Bytes) := do
  let w ← a.options.foldlM (fun w o => w.with o.1 o.2) Wish.start
  let digits := lastDigits (a.options.map (·.1))
  let w ← if digits.isEmpty then pure w
    else do pure { w with columns := some (← number 1 "invalid number of columns" digits).toNat }
  let (pages, files) ← a.operands.foldlM (fun (pages, files) o =>
    match pages, o with
    | none, '+' :: s =>
      match range? s with
      | some r => .ok (some r, files)
      | none =>
        if (s.head?).any Char.isDigit then .ok (none, o :: files)
        else .error (.plain ("invalid + argument ".toList ++ Quoting.plain s))
    | pages, o => .ok (pages, o :: files)) (w.pages, ([] : List Bytes))
  if w.merges && w.columns.isSome then
    throw (.plain "cannot specify number of columns when printing in parallel".toList)
  if w.merges && w.across then
    throw (.plain "cannot specify both printing across and printing in parallel".toList)
  return ({ w with pages := pages }, files.reverse)

/-- The wish with the old options for widths and separators in terms of the others. -/
def Wish.modern (w : Wish) : Wish :=
  let several := w.merges || w.columns.isSome
  if w.oldWidth then
    if several then
      { w with truncates := true, separates := w.separates || w.oldSeparator }
    else { w with joins := true }
  else if !w.separates && w.oldSeparator && several then
    if w.truncates then { w with separates := true }
    else { w with joins := true, separates := !w.separator.isEmpty }
  else w

/-- How many lines the head of a page has. -/
def headLines : Nat := 5

/-- The style of a wish for some files side by side; nothing if the columns have no room. -/
def Wish.style (w : Wish) (files : Nat) : Option Style :=
  let merges := w.merges && files != 0
  let stores := !w.across && !w.merges
  let columns := if merges then files else w.columns.getD 1
  let short := w.length ≤ headLines + footLines
  let framed := w.framed && !short
  let body := if framed then w.length - headLines - footLines else w.length
  let many := 1 < columns
  let separator :=
    if !many then w.separator
    else if !w.separates then [if w.joins then '\t' else ' ']
    else if !w.joins && w.separator = ['\t'] then [' ']
    else w.separator
  let numberWidth := match w.numbering with
    | none => 0
    | some n =>
      if n.separator = '\t' then n.digits + (8 - n.digits % 8) else n.digits + 1
  let taken := (columns - 1) * separator.length + (if merges then numberWidth else 0)
  let columnWidth := (w.width - taken) / columns
  if columnWidth = 0 then none
  else some {
    columns := columns, merges := merges, stores := stores && many
    bodyLines := if w.doubled then max 1 (body / 2) else body
    framed := framed, keepsFeeds := w.keepsFeeds || short, doubled := w.doubled
    separator := separator, separates := w.separates || many
    truncates := (w.truncates || many) && !w.joins
    numbering := w.numbering, numberWidth := numberWidth, columnWidth := columnWidth
    margin := w.margin, inputTab := w.inputTab
    expands := w.expands || (many && separator != ['\t'])
    outputTab := w.outputTab, shrinks := w.shrinks || many, shows := w.shows
    byFeed := w.byFeed, pageWidth := w.width }

/-- The columns at the start. -/
def Style.columnsAtStart (s : Style) (count : Nat) : Array Column :=
  let width := s.separator.length
  let first := s.columnWidth + (if s.merges then s.numberWidth else 0)
  ((List.range count).map fun i =>
    let start := if i = 0 then s.margin + width
      else if !s.truncates then 0
      else s.margin + first + width + (i - 1) * (s.columnWidth + width)
    (⟨if s.merges then i else 0, .opened, 0, [], start,
      s.numbering.isSome && (!s.merges || i = 0), false⟩ : Column)).toArray

/-- The head of a page. -/
def headOf (width margin : Nat) (date title : Bytes) (page : Nat) : Bytes :=
  let number := "Page ".toList ++ Bytes.ofNat page
  let free := width - (date.length + title.length) - number.length
  let before := free / 2
  let gap (n : Nat) : Bytes := List.replicate (max 1 n) ' '
  "\n\n".toList ++ List.replicate margin ' ' ++ date ++ gap before ++ title
    ++ gap (free - before) ++ number ++ "\n\n\n".toList

/-- Pass over lines. -/
def behindLines : Nat → Bytes → Bytes
  | 0, s => s
  | n + 1, s => behindLines n ((s.dropWhile (· != '\n')).drop 1)

/-- Print texts, which stand side by side if there are several ones. -/
def printTexts (name : Bytes) (w : Wish) (style : Style) (date title : Bytes)
    (texts : List Bytes) : Shell Unit := do
  let first := (w.pages.map (·.1)).getD 1
  let perPage := style.bodyLines * (if style.merges then 1 else style.columns)
  let passed := (first - 1) * perPage
  let left := texts.map (behindLines passed)
  if 1 < first && left.all (·.isEmpty) then
    let most := (texts.map fun t => (piecesAt '\n' t).length).foldl max 0
    utilityError name ("starting page number ".toList ++ Bytes.ofNat first
      ++ " exceeds page count ".toList
      ++ Bytes.ofNat (most / perPage + 1))
    return ()
  let number : Int := match w.first with
    | some n => n
    | none => 1 + passed
  let count := if style.merges then texts.length else style.columns
  let style := { style with columns := count }
  let press : Press :=
    { style := style, head := headOf style.pageWidth style.margin date title
      texts := left.toArray, columns := style.columnsAtStart count, printed := [], held := []
      position := 0, blanks := 0, separators := 0, padding := 0, column := 0, number := number
      page := first, headDue := false, feedDue := false, onlyFeed := false, isEmpty := true
      aligns := false, open_ := false, ready := texts.length }
  let fuel := sumOf (texts.map List.length) + 2
  let ((), press) := (printPages (w.pages.bind (·.2)) fuel).run press
  write 1 press.printed.reverse.flatten

/-- The date in a form. -/
def dateText (form : Bytes) (milliseconds : Int) : Bytes :=
  (Calendar.Moment.ofSeconds (milliseconds.fdiv 1000)
    ((milliseconds % 1000).toNat * 1000000)).formatted form

/-- When a file was changed; the input counts as new. -/
def changeOf (path : Option Bytes) : Shell Int := do
  let m ← get
  match path with
  | none => return now m
  | some path =>
    match m.tree.locate m.cwd (Bytes.toList path) with
    | .ok place => return changedAt m place
    | .error _ => return now m

/-- What a file holds; the second part is false if there is no going on. -/
def contentOf (name : Bytes) (w : Wish) (path : Bytes) : Shell (Option Bytes × Bool) := do
  match ← readOperand path with
  | .ok s => return (some s, true)
  | .error e =>
    let shown := if path = ['-'] then "'standard input'".toList else Quoting.ifNeeded path
    if failsLate e || !w.quiet then utilityError name (shown ++ ": ".toList ++ reasonText e)
    return (none, !failsLate e)

/-- Print files one after the other. -/
def printEach (name : Bytes) (w : Wish) : List Bytes → Shell Nat
  | [] => return 0
  | path :: rest => do
    let some style := w.style 1 | tooNarrow name
    let (text, on) ← contentOf name w path
    if let some text := text then
      let file := if path = ['-'] then none else some path
      let date := dateText w.dateForm (← changeOf file)
      printTexts name w style date (w.title.getD (file.getD [])) [text]
    if !on then return 1
    let status ← printEach name w rest
    return if text.isNone then 1 else status
where
  tooNarrow (name : Bytes) : Shell Nat := do
    utilityError name "page width too narrow".toList
    return 1

end Pages

open Pages in
def pr : Utility := withOptions forms fun name a => do
  match wishOf a with
  | .error (.plain message) =>
    utilityError name message
    return 1
  | .error (.offering message) => misused name message 1
  | .ok (w, files) =>
    let w := w.modern
    if w.merges && !files.isEmpty then
      let some style := w.style files.length | printEach.tooNarrow name
      let parts ← files.mapM (contentOf name w)
      if parts.any (!·.2) then return 1
      let texts := parts.filterMap (·.1)
      unless texts.isEmpty do
        let date := dateText w.dateForm (← changeOf none)
        printTexts name w style date (w.title.getD []) texts
      return if texts.length = files.length then 0 else 1
    else printEach name w (if files.isEmpty then [['-']] else files)

end SvgSkeleton.Shell
