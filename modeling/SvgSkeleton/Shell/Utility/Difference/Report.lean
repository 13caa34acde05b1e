import SvgSkeleton.Shell.Utility.Difference.Comparison

/-!
How the changes between two texts are written: as commands, in groups with the lines around them, or
with both texts side by side.
-/

namespace SvgSkeleton.Shell.Difference

open Shell.Alignment (Change)

inductive Style where
  | normal
  | context (lines : Nat)
  | unified (lines : Nat)
  | editor
  | editorForward
  | commands
  | sideBySide (width : Nat) (leftOnly changesOnly : Bool)

/-- How many lines around a change are shown. -/
def Style.around : Style → Nat
  | .context n | .unified n => n
  | _ => 0

/-- How lines are written. -/
structure Look where
  style : Style
  rules : Rules
  /-- Are there to be blanks for tabs, and a tab behind a sign? -/
  expands : Bool
  tabBehind : Bool
  /-- Is nothing written behind a sign if the line is empty? -/
  bareEmpty : Bool
  /-- What the line is like that begins a section. -/
  heading : Option Matcher

/-! ### Lines and ranges -/

/-- A line as it is written, with a sign in front. -/
def Look.line (k : Look) (sign gap : String) (s : Side) (i : Nat) : Bytes :=
  let text := s.line i
  let body := if k.expands then withoutTabs k.rules.tabSize 0 text else text
  let between := if text.isEmpty && k.bareEmpty then [] else gap.toList
  sign.toList ++ between ++ body ++ ['\n']
    ++ (if s.isOpen i then "\\ No newline at end of file\n".toList else [])

/-- Some lines, each with a sign in front. -/
def Look.lines (k : Look) (sign gap : String) (s : Side) (first count : Nat) : Bytes :=
  (List.range count).flatMap fun i => k.line sign gap s (first + i)

/-- What stands between a sign and a line. -/
def Look.gap (k : Look) : String := if k.tabBehind then "\t" else " "

/-- A range of lines: that of its only line, or before it if it is empty, or those at its ends. -/
def range (sep : String) (first count : Nat) : Bytes :=
  if count ≤ 1 then Bytes.ofNat (first + count)
  else Bytes.ofNat (first + 1) ++ sep.toList ++ Bytes.ofNat (first + count)

/-- The letter of a change. -/
def letter (c : Change) : Char :=
  if c.removed = 0 then 'a' else if c.added = 0 then 'd' else 'c'

/-! ### Commands -/

def Look.normal (k : Look) (a b : Side) (c : Change) : Bytes :=
  range "," c.left c.removed ++ letter c :: range "," c.right c.added ++ ['\n']
    ++ k.lines "<" k.gap a c.left c.removed
    ++ (if letter c = 'c' then "---\n".toList else [])
    ++ k.lines ">" k.gap b c.right c.added

/-- The lines that are put in by an editor. A line that is only a point is put in as two, and
changed afterwards. -/
def insertedLines : List Bytes → Bytes
  | [] => ".\n".toList
  | ['.'] :: rest =>
    "..\n.\ns/.//\n".toList ++ (if rest.isEmpty then [] else "a\n".toList ++ insertedLines rest)
  | s :: rest => s ++ '\n' :: insertedLines rest

def linesIn (s : Side) (first count : Nat) : List Bytes :=
  (List.range count).map fun i => s.line (first + i)

def editor (b : Side) (c : Change) : Bytes :=
  range "," c.left c.removed ++ [letter c, '\n']
    ++ (if c.added = 0 then [] else insertedLines (linesIn b c.right c.added))

def editorForward (b : Side) (c : Change) : Bytes :=
  letter c :: range " " c.left c.removed ++ ['\n']
    ++ (if c.added = 0 then []
      else (linesIn b c.right c.added).flatMap (· ++ ['\n']) ++ ".\n".toList)

def commands (b : Side) (c : Change) : Bytes :=
  (if c.removed = 0 then []
    else 'd' :: Bytes.ofNat (c.left + 1) ++ ' ' :: Bytes.ofNat c.removed ++ ['\n'])
    ++ (if c.added = 0 then []
      else 'a' :: Bytes.ofNat (c.left + c.removed) ++ ' ' :: Bytes.ofNat c.added ++ ['\n']
        ++ (List.range c.added).flatMap fun i => b.whole (c.right + i))

/-! ### Groups -/

/-- The lines that a group of changes is shown with: where they begin on either side, and where they
end. -/
structure Extent where
  left : Nat
  leftEnd : Nat
  right : Nat
  rightEnd : Nat

def extent (around : Nat) (a b : Side) (first last : Change) : Extent :=
  ⟨first.left - around, min a.lines.size (last.left + last.removed + around),
   first.right - around, min b.lines.size (last.right + last.added + around)⟩

/-- How much of a heading is shown. -/
def headingLength : Nat := 40

/-- The last heading before a line. -/
def Look.headingBefore (k : Look) (a : Side) (i : Nat) : Bytes :=
  match k.heading with
  | none => []
  | some m =>
    match (List.range i).reverse.find? fun j => m.isMatch (a.line j) with
    | some j => ' ' :: trimmedRight (((a.line j).dropWhile isSpaceByte).take headingLength)
    | none => []

/-- A range of lines above a unified group. -/
def unifiedRange (first count : Nat) : Bytes :=
  if count = 1 then Bytes.ofNat (first + 1)
  else if count = 0 then Bytes.ofNat first ++ ",0".toList
  else Bytes.ofNat (first + 1) ++ ',' :: Bytes.ofNat count

/-- The lines of a unified group from a place on: those that are common, then those of each
change. -/
def Look.unifiedLines (k : Look) (a b : Side) (stop : Nat) : Nat → List Change → Bytes
  | i, [] => k.lines "" k.gap a i (stop - i)
  | i, c :: rest =>
    let tab := if k.tabBehind then "\t" else ""
    k.lines "" k.gap a i (c.left - i) ++ k.lines "-" tab a c.left c.removed
      ++ k.lines "+" tab b c.right c.added
      ++ k.unifiedLines a b stop (c.left + c.removed) rest

def Look.unified (k : Look) (around : Nat) (a b : Side) (first last : Change)
    (group : List Change) : Bytes :=
  let e := extent around a b first last
  "@@ -".toList ++ unifiedRange e.left (e.leftEnd - e.left) ++ " +".toList
    ++ unifiedRange e.right (e.rightEnd - e.right) ++ " @@".toList
    ++ k.headingBefore a e.left ++ ['\n'] ++ k.unifiedLines a b e.leftEnd e.left group

/-- A range of lines above a group with context. -/
def contextRange (first last : Nat) : Bytes :=
  if last ≤ first + 1 then Bytes.ofNat last
  else Bytes.ofNat (first + 1) ++ ',' :: Bytes.ofNat last

/-- The lines of one side of a group, each with a sign that tells what becomes of it. -/
def Look.contextLines (k : Look) (s : Side) (sign : Char) (changed : Nat → Option Change)
    (other : Change → Nat) (first last : Nat) : Bytes :=
  (List.range (last - first)).flatMap fun i =>
    let mark := match changed (first + i) with
      | none => " "
      | some c => if 0 < other c then "!" else String.singleton sign
    k.line mark k.gap s (first + i)

def Look.context (k : Look) (around : Nat) (a b : Side) (first last : Change)
    (group : List Change) : Bytes :=
  let e := extent around a b first last
  let onLeft (i : Nat) := group.find? fun c => c.left ≤ i && i < c.left + c.removed
  let onRight (i : Nat) := group.find? fun c => c.right ≤ i && i < c.right + c.added
  "***************".toList ++ k.headingBefore a e.left
    ++ "\n*** ".toList ++ contextRange e.left e.leftEnd ++ " ****\n".toList
    ++ (if group.any (0 < ·.removed) then k.contextLines a '-' onLeft (·.added) e.left e.leftEnd
      else [])
    ++ "--- ".toList ++ contextRange e.right e.rightEnd ++ " ----\n".toList
    ++ (if group.any (0 < ·.added) then k.contextLines b '+' onRight (·.removed) e.right e.rightEnd
      else [])

/-! ### Side by side -/

/-- Where the halves are: how much fits into one, and where the second one begins. -/
structure Columns where
  half : Nat
  second : Nat

/-- How much room there is at least between the halves. -/
def leastGutter : Nat := 3

def Look.columns (k : Look) (width : Nat) : Columns :=
  let tab := if k.expands then 1 else k.rules.tabSize
  let both := tab + leastGutter
  let middle := width / 2 + both / 2 + (if width % 2 = 1 && both % 2 = 1 then 1 else 0)
  let second := middle - middle % tab
  let half := if second = 0 || width ≤ second then 0
    else min (second - leastGutter) (width - second)
  ⟨half, if half = 0 then width else second⟩

/-- Tabs and blanks from one column to another one. -/
def Look.fill (k : Look) (goal : Nat) : Nat → Nat → Bytes
  | 0, _ => []
  | fuel + 1, column =>
    let tab := column + (k.rules.tabSize - column % k.rules.tabSize)
    if !k.expands && tab ≤ goal then '\t' :: k.fill goal fuel tab
    else List.replicate (goal - column) ' '

/-- The front of a line that fits into a half, and the column behind it. The first number is where
the line has come to, the second one where what has been written of it has. -/
def Look.halfLine (k : Look) (bound : Nat) : Nat → Nat → Bytes → Bytes × Nat
  | _, out, [] => ([], out)
  | at', out, '\t' :: r =>
    let n := k.rules.tabSize - at' % k.rules.tabSize
    let (shown, out) : Bytes × Nat :=
      if at' != out then ([], out)
      else if k.expands then (List.replicate (min bound (at' + n) - at') ' ', min bound (at' + n))
      else if at' + n < bound then (['\t'], at' + n)
      else ([], out)
    let (rest, column) := k.halfLine bound (at' + n) out r
    (shown ++ rest, column)
  | at', out, c :: r =>
    if c.toNat < 32 || c.toNat = 127 then
      let (rest, column) := k.halfLine bound at' out r
      (if at' < bound then c :: rest else rest, column)
    else if at' < bound then
      let (rest, column) := k.halfLine bound (at' + 1) (at' + 1) r
      (c :: rest, column)
    else k.halfLine bound (at' + 1) out r

/-- A line of both halves, with a sign between them. -/
def Look.pairLine (k : Look) (c : Columns) (sign : Char) (left right : Option (Side × Nat)) :
    Bytes :=
  let ends (s : Option (Side × Nat)) : Bool := s.any fun (s, i) => !s.isOpen i
  let (first, column) := match left with
    | some (s, i) => k.halfLine c.half 0 0 (s.line i)
    | none => ([], 0)
  let (middle, column) : Bytes × Nat := if sign = ' ' then ([], column)
    else
      let goal := (c.half + c.second - 1) / 2
      let sign := if sign = '|' && ends left != ends right then if ends left then '/' else '\\'
        else sign
      (k.fill goal (goal + 1) column ++ [sign], max column goal + 1)
  let last := match right with
    | some (s, i) =>
      if (s.line i).isEmpty then []
      else k.fill c.second (c.second + 1) column ++ (k.halfLine c.half 0 0 (s.line i)).1
    | none => []
  first ++ middle ++ last ++ (if ends left || ends right then ['\n'] else [])

/-- The lines of both texts up to the next change. -/
def Look.commonLines (k : Look) (columns : Columns) (leftOnly changesOnly : Bool) (a b : Side)
    (i last j other : Nat) : Bytes :=
  if changesOnly then []
  else if leftOnly then
    (List.range (last - i)).flatMap fun n => k.pairLine columns '(' (some (a, i + n)) none
  else
    let both := min (last - i) (other - j)
    (List.range both).flatMap (fun n =>
      k.pairLine columns ' ' (some (a, i + n)) (some (b, j + n)))
      ++ (List.range (other - j - both)).flatMap (fun n =>
        k.pairLine columns ')' none (some (b, j + both + n)))
      ++ (List.range (last - i - both)).flatMap fun n =>
        k.pairLine columns '(' (some (a, i + both + n)) none

/-- Both texts from two places on. -/
def Look.pairs (k : Look) (columns : Columns) (leftOnly changesOnly : Bool) (a b : Side) :
    Nat → Nat → List Change → Bytes
  | i, j, [] => k.commonLines columns leftOnly changesOnly a b i a.lines.size j b.lines.size
  | i, j, c :: rest =>
    if k.rules.ignores a b c then k.pairs columns leftOnly changesOnly a b i j rest
    else
      let both := min c.removed c.added
      k.commonLines columns leftOnly changesOnly a b i c.left j c.right
        ++ (List.range both).flatMap (fun n =>
          k.pairLine columns '|' (some (a, c.left + n)) (some (b, c.right + n)))
        ++ (List.range (c.added - both)).flatMap (fun n =>
          k.pairLine columns '>' none (some (b, c.right + both + n)))
        ++ (List.range (c.removed - both)).flatMap (fun n =>
          k.pairLine columns '<' (some (a, c.left + both + n)) none)
        ++ k.pairs columns leftOnly changesOnly a b (c.left + c.removed) (c.right + c.added) rest

/-! ### Reports -/

/-- The groups of changes, each as it is written; those that count for nothing are left out. -/
def Look.grouped (k : Look) (around : Nat) (a b : Side) (cs : List Change)
    (show' : Change → Change → List Change → Bytes) : List Bytes :=
  (groups (k.rules.ignores a b) around (cs.length + 1) cs).filterMap fun group =>
    if group.all (k.rules.ignores a b) then none
    else
      match group.head?, group.getLast? with
      | some first, some last => some (show' first last group)
      | _, _ => none

/-- The pieces of a report on changes. -/
def Look.pieces (k : Look) (a b : Side) (cs : List Change) : List Bytes :=
  let counting := cs.filter fun c => !k.rules.ignores a b c
  match k.style with
  | .normal => counting.map (k.normal a b)
  | .editor => counting.reverse.map (editor b)
  | .editorForward => counting.map (editorForward b)
  | .commands => counting.map (commands b)
  | .unified n => k.grouped n a b cs (k.unified n a b)
  | .context n => k.grouped n a b cs (k.context n a b)
  | .sideBySide width leftOnly changesOnly =>
    [k.pairs (k.columns width) leftOnly changesOnly a b 0 0 cs]

/-- What stands above a report. -/
def Look.top (k : Look) (a b : Side) : Bytes :=
  let both (s t : String) : Bytes :=
    s.toList ++ a.title ++ '\n' :: t.toList ++ b.title ++ ['\n']
  match k.style with
  | .unified _ => both "--- " "+++ "
  | .context _ => both "*** " "--- "
  | _ => []

/-- A report on the changes between two texts. -/
def Look.report (k : Look) (a b : Side) (cs : List Change) : Bytes :=
  match k.pieces a b cs with
  | [] => []
  | pieces => k.top a b ++ pieces.flatten

end SvgSkeleton.Shell.Difference
