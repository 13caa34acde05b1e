import SvgSkeleton.Shell.Whole
import SvgSkeleton.Shell.Utility.Options

/-!
`fmt`: paragraphs whose lines are about equally long. Where a paragraph is broken, the sum of the
costs of its lines is the least: what a line costs depends on its length, on the length of the line
behind it, and on the word that it begins with.
-/

namespace SvgSkeleton.Shell.Paragraph

/-- A word, and what follows it. -/
structure Word where
  text : Bytes
  /-- How many blanks follow it. -/
  space : Nat
  /-- Does it open a parenthesis? -/
  opens : Bool
  /-- Does it end in a sign? -/
  signed : Bool
  /-- Does it end in a full stop, or the like? -/
  stopped : Bool
  /-- Does a sentence end with it? -/
  isLast : Bool

/-- What paragraphs are to look like. -/
structure Style where
  width : Nat
  goal : Nat
  crown : Bool
  tagged : Bool
  splits : Bool
  uniform : Bool
  /-- The blanks in front of the mark that lines begin with, and that mark with and without the
  blanks behind it. -/
  lead : Nat
  mark : Bytes
  fullMark : Nat

/-- A line as it is read: the columns at which its mark and its text begin, and its text. -/
structure Line where
  markColumn : Nat
  column : Nat
  text : Bytes
  /-- Does a line feed follow? -/
  ended : Bool

/-- The column behind blanks and tabs, and what follows them. -/
def behindBlanks (column : Nat) : Bytes → Nat × Bytes
  | ' ' :: r => behindBlanks (column + 1) r
  | '\t' :: r => behindBlanks ((column / 8 + 1) * 8) r
  | s => (column, s)

/-- The column behind as much of a mark as stands there, what follows it, and is it the whole? -/
def behindMark (column : Nat) : Bytes → Bytes → Nat × Bytes × Bool
  | [], s => (column, s, true)
  | m :: ms, c :: r => if m = c then behindMark (column + 1) ms r else (column, c :: r, false)
  | _ :: _, [] => (column, [], false)

/-- Read a line. -/
def Style.line (style : Style) (raw : Bytes) : Line :=
  let body := Bytes.chomp raw
  let ended := body.length < raw.length
  let (column, rest) := behindBlanks 0 body
  if style.mark.isEmpty then ⟨min style.lead column, column, rest, ended⟩
  else
    match behindMark column style.mark rest with
    | (after, rest, false) => ⟨column, after, rest, ended⟩
    | (after, rest, true) =>
      let (after, rest) := behindBlanks after rest
      ⟨column, after, rest, ended⟩

/-- Does a line belong to a paragraph? -/
def Style.isText (style : Style) (l : Line) : Bool :=
  !l.text.isEmpty && style.lead ≤ l.markColumn && l.markColumn + style.fullMark ≤ l.column

/-! ### Words -/

def isSign (c : Char) : Bool := 0x21 ≤ c.toNat && c.toNat ≤ 0x7E && !c.isAlphanum

/-- A word from its letters, the blanks behind it, and whether a line ends there. -/
def wordOf (uniform : Bool) (text : Bytes) (space : Nat) (atEnd atEndOfText : Bool) : Word :=
  let back := text.reverse
  let inner := (back.take (back.length - 1)).dropWhile fun c => ")]'\"".toList.contains c
  let final := inner.head?.getD (text.headD ' ')
  let stopped := ".?!".toList.contains final
  let isLast := atEndOfText || (stopped && (atEnd || 1 < space))
  ⟨text, if atEnd || uniform then (if isLast then 2 else 1) else space,
   text.head?.any fun c => "(['\x60\"".toList.contains c, back.head?.any isSign, stopped, isLast⟩

/-- The words of a line from a column on. -/
def wordsOf (uniform ended : Bool) : Nat → Nat → Bytes → List Word
  | 0, _, _ => []
  | _ + 1, _, [] => []
  | fuel + 1, column, c :: r =>
    let text := c :: r.takeWhile (!isSpaceByte ·)
    let after := column + text.length
    let (next, rest) := behindBlanks after ((c :: r).drop text.length)
    wordOf uniform text (next - after) rest.isEmpty (rest.isEmpty && !ended)
      :: wordsOf uniform ended fuel next rest

def Line.words (l : Line) (uniform : Bool) : List Word :=
  wordsOf uniform l.ended (l.text.length + 1) l.column l.text

/-! ### Costs -/

def squared (n : Int) : Int := n * n

/-- What a line costs that is so much shorter than it should be. -/
def shortCost (n : Int) : Int := squared (n * 10)

/-- What it costs that two lines differ so much. -/
def raggedCost (n : Int) : Int := shortCost n / 2

/-- What it costs to begin a line with a word. The words before it are given, the latest first. -/
def beginCost (before : List Word) (w : Word) : Int :=
  let cost : Int := squared 70
  let cost := match before with
    | [] => cost
    | p :: earlier =>
      if p.stopped then if p.isLast then cost - squared 50 else cost + squared 600
      else if p.signed then cost - squared 40
      else
        match earlier with
        | q :: _ :: _ | q :: [] =>
          if q.isLast then cost + squared 200 / (p.text.length + 2) else cost
        | [] => cost
  if w.opens then cost - squared 40
  else if w.isLast then cost + squared 150 / (w.text.length + 2)
  else cost

/-- A way to break the words from one on: how many are in the first line, how long that is, what it
all costs, and is it the last line? -/
structure Break where
  count : Nat
  length : Nat
  cost : Int
  isEnd : Bool
  deriving Inhabited

/-- The best first line of words. The state is how many words it holds at least and how long it is
then, the words behind it with the ways to break these, and the best that is known. -/
def bestLine (style : Style) : Nat → Nat → Nat → List Word → List Break →
    Option Break → Option Break
  | 0, _, _, _, _, best => best
  | fuel + 1, count, length, words, breaks, best =>
    match words with
    | [] => best
    | w :: rest =>
      let count := count + 1
      let length := length + w.text.length
      let next := breaks.head?
      let cost : Int := match next with
        | none => 0
        | some b =>
          shortCost (style.goal - length)
            + (if b.isEnd then 0 else raggedCost ((length : Int) - b.length)) + b.cost
      let best := match best with
        | some b => if cost < b.cost then some ⟨count, length, cost, next.isNone⟩ else some b
        | none => some ⟨count, length, cost, next.isNone⟩
      match rest with
      | [] => best
      | x :: _ =>
        if length + w.space + x.text.length < style.width then
          bestLine style fuel count (length + w.space) rest (breaks.drop 1) best
        else best

/-- The best ways to break words from each on. -/
def breaksOf (style : Style) (first other : Nat) (before : List Word) : List Word → List Break
  | [] => []
  | w :: rest =>
    let later := breaksOf style first other (w :: before) rest
    let start := if before.isEmpty then first else other
    match bestLine style (rest.length + 1) 0 start (w :: rest) later none with
    | some b => { b with cost := b.cost + beginCost before w } :: later
    | none => ⟨1, start + w.text.length, 0, rest.isEmpty⟩ :: later

/-! ### Lines -/

/-- Blanks from a column on, with tabs where these are used and there is room for one. -/
def blanks (tabs : Bool) (column count : Nat) : Bytes :=
  let goal := column + count
  let tabGoal := goal / 8 * 8
  if tabs && column + 1 < tabGoal then
    List.replicate (tabGoal / 8 - column / 8) '\t' ++ List.replicate (goal - tabGoal) ' '
  else List.replicate count ' '

/-- The words of a line from a column on. -/
def wordsText (tabs : Bool) : Nat → List Word → Bytes
  | _, [] => []
  | _, [w] => w.text
  | column, w :: rest =>
    let after := column + w.text.length
    w.text ++ blanks tabs after w.space ++ wordsText tabs (after + w.space) rest

/-- A line of a paragraph. -/
def Style.lineText (style : Style) (tabs : Bool) (markColumn indent : Nat) (words : List Word) :
    Bytes :=
  let column := markColumn + style.mark.length
  blanks tabs 0 markColumn ++ style.mark ++ blanks tabs column (indent - column)
    ++ wordsText tabs (max column indent) words ++ ['\n']

/-- All lines of a paragraph. -/
def Style.linesText (style : Style) (tabs : Bool) (markColumn other : Nat) :
    Nat → Nat → List Word → List Break → Bytes
  | 0, _, _, _ => []
  | fuel + 1, indent, words, breaks =>
    match breaks with
    | [] => []
    | b :: _ =>
      let text := style.lineText tabs markColumn indent (words.take b.count)
      if words.length ≤ b.count || b.count = 0 then text
      else text ++ style.linesText tabs markColumn other fuel other (words.drop b.count)
        (breaks.drop b.count)

/-- A line that belongs to no paragraph. -/
def Style.copied (style : Style) (tabs : Bool) (l : Line) : Bytes :=
  let ending := if l.ended then ['\n'] else []
  if l.markColumn < l.column || !l.text.isEmpty then
    let marked := style.mark.take (l.column - l.markColumn)
    let column := l.markColumn + marked.length
    let gap := if l.text.isEmpty then [] else blanks tabs column (l.column - column)
    let missing := if l.text.isEmpty && !l.ended && l.markColumn + style.mark.length ≤ l.column then
      ['\n'] else []
    blanks tabs 0 l.markColumn ++ marked ++ gap ++ l.text ++ missing ++ ending
  else ending

/-- The indent of the lines behind the first one. -/
def Style.otherIndent (style : Style) (last : Nat) (first : Line) (next : Option Line) : Nat :=
  if style.splits then first.column
  else if style.crown then (next.map (·.column)).getD first.column
  else if style.tagged then
    match next with
    | some n => if n.column != first.column then n.column else
        if last = first.column then if first.column = 0 then 3 else 0 else last
    | none => if last = first.column then if first.column = 0 then 3 else 0 else last
  else first.column

/-- The lines of a paragraph behind its first one. -/
def Style.following (style : Style) (first : Line) (other : Nat) (lines : List Line) : List Line :=
  let belongs (l : Line) : Bool := style.isText l && l.markColumn == first.markColumn
  let aligned (l : Line) : Bool := belongs l && l.column == other
  if style.splits then []
  else if style.crown then
    match lines with
    | l :: rest => if belongs l then l :: rest.takeWhile aligned else []
    | [] => []
  else if style.tagged then
    match lines with
    | l :: rest =>
      if belongs l && l.column != first.column then l :: rest.takeWhile aligned else []
    | [] => []
  else lines.takeWhile aligned

/-- The words of a paragraph, of which the last one ends a sentence. -/
def Style.words (style : Style) (lines : List Line) : List Word :=
  let words := lines.flatMap (·.words style.uniform)
  match words.getLast? with
  | some w => words.dropLast ++ [{ w with stopped := true, isLast := true }]
  | none => []

/-- A text with its paragraphs broken anew. The state is the indent of the lines behind the first
one of the paragraph before. -/
def Style.text (style : Style) (tabs : Bool) : Nat → Nat → List Line → Bytes
  | 0, _, _ => []
  | _ + 1, _, [] => []
  | fuel + 1, other, l :: rest =>
    if !style.isText l then style.copied tabs l ++ style.text tabs fuel other rest
    else
      let belongs (n : Line) : Bool := style.isText n && n.markColumn == l.markColumn
      let next := rest.head?.bind fun n => if belongs n then some n else none
      let other := style.otherIndent other l next
      let more := style.following l other rest
      let words := style.words (l :: more)
      let breaks := breaksOf style l.column other [] words
      style.linesText tabs l.markColumn other (words.length + 1) l.column words breaks
        ++ style.text tabs fuel other (rest.drop more.length)

/-! ### Options -/

def forms : List OptionForm :=
  [flag 'c' ["crown-margin"], setting 'p' ["prefix"], flag 's' ["split-only"],
   flag 't' ["tagged-paragraph"], flag 'u' ["uniform-spacing"], setting 'w' ["width"],
   setting 'g' ["goal"]]

/-- The greatest width. -/
def mostWidth : Nat := 2500

/-- The arguments with a number behind the dash of the first one as the width. -/
def widthFirst : List Bytes → List Bytes
  | ('-' :: c :: r) :: rest =>
    if c.isDigit then ('-' :: 'w' :: c :: r) :: rest else ('-' :: c :: r) :: rest
  | args => args

/-- The style that options ask for; the error is a width that is none. -/
def styleOf (a : Arguments) : Except (Bytes × Amount.Fault) Style := do
  let number (letter : Char) (most : Nat) : Except (Bytes × Amount.Fault) (Option Nat) :=
    match a.value? letter with
    | none => .ok none
    | some text => ((Amount.natWithin 0 most text).map some).mapError (text, ·)
  let width ← number 'w' mostWidth
  let goal ← number 'g' (width.getD 75)
  let width := width.getD ((goal.map (· + 10)).getD 75)
  let given := (a.value? 'p').getD []
  let mark := given.dropWhile (· == ' ')
  let bare := (mark.reverse.dropWhile (· == ' ')).reverse
  return ⟨width, goal.getD (width * 187 / 200), a.has 'c', a.has 't', a.has 's', a.has 'u',
    given.length - mark.length, bare, mark.length⟩

end Paragraph

def fmt : Utility := fun name args =>
  withOptions Paragraph.forms (fun name a => do
    match Paragraph.styleOf a with
    | .error (text, fault) =>
      utilityError name ("invalid width: ".toList ++ Quoting.plain text ++ fault.note)
      return 1
    | .ok style =>
      let operands := if a.operands.isEmpty then [['-']] else a.operands
      let outcomes ← operands.mapM fun path => do
        match ← readOperand path with
        | .ok content =>
          let lines := (Bytes.lines content).map style.line
          let ends := content.isEmpty || content.getLast? = some '\n'
          let lines := if ends then lines ++ [⟨0, 0, [], false⟩] else lines
          let tabs := content.contains '\t'
          write 1 (style.text tabs (lines.length + 1) 0 lines)
          return true
        | .error e =>
          utilityError name (if failsLate e then "read error".toList
            else "cannot open ".toList ++ Quoting.always path ++ " for reading: ".toList
              ++ reasonText e)
          return false
      return if outcomes.all id then 0 else 1) name (Paragraph.widthFirst args)

end SvgSkeleton.Shell
