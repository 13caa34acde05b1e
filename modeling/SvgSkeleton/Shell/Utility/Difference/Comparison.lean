import SvgSkeleton.Shell.Alignment
import SvgSkeleton.Shell.Bytes
import SvgSkeleton.Shell.Regex

/-!
Two texts compared line by line: which lines count as equal, what is changed between the texts, and
which changes stand so close together that they are shown as one.
-/

namespace SvgSkeleton.Shell.Difference

open Shell.Alignment (Change)

/-- A text in lines. -/
structure Side where
  /-- What it is called. -/
  name : Bytes
  /-- What is written of it above a report. -/
  title : Bytes
  /-- The lines, without the line feeds at their ends. -/
  lines : Array Bytes
  /-- Does the last line end in a line feed? -/
  complete : Bool

/-- The lines of a text, and does the last one end in a line feed? -/
def linesOf (s : Bytes) : Array Bytes × Bool :=
  let complete := s.isEmpty || s.getLast? == some '\n'
  ((Bytes.lines s).map Bytes.chomp |>.toArray, complete)

/-- Is it the last line, and not complete? -/
def Side.isOpen (s : Side) (i : Nat) : Bool := !s.complete && i + 1 = s.lines.size

def Side.line (s : Side) (i : Nat) : Bytes := s.lines.getD i []

/-- A line with the line feed at its end. -/
def Side.whole (s : Side) (i : Nat) : Bytes := if s.isOpen i then s.line i else s.line i ++ ['\n']

/-! ### Equal lines -/

/-- Which blanks do not count. -/
inductive Blanks where
  | none
  | tabs
  | trailing
  | tabsAndTrailing
  | amount
  | all
  deriving DecidableEq

def Blanks.rank : Blanks → Nat
  | .none => 0
  | .tabs => 1
  | .trailing => 2
  | .tabsAndTrailing => 3
  | .amount => 4
  | .all => 5

/-- What does not count when lines are compared. -/
structure Rules where
  ignoreCase : Bool
  blanks : Blanks
  /-- Changes in which all lines are empty, or all fit an expression, count for nothing. -/
  emptyLines : Bool
  fitting : Option Matcher
  tabSize : Nat

/-- A text without the blanks at its end. -/
def trimmedRight (s : Bytes) : Bytes := (s.reverse.dropWhile isSpaceByte).reverse

/-- A text with each run of blanks made one. -/
def squeezed : Bool → Bytes → Bytes
  | _, [] => []
  | inBlanks, c :: r =>
    if isSpaceByte c then if inBlanks then squeezed true r else ' ' :: squeezed true r
    else c :: squeezed false r

/-- A text with blanks for its tabs. -/
def withoutTabs (size : Nat) : Nat → Bytes → Bytes
  | _, [] => []
  | column, '\t' :: r =>
    let n := size - column % size
    List.replicate n ' ' ++ withoutTabs size (column + n) r
  | column, c :: r => c :: withoutTabs size (column + 1) r

/-- What counts of a line. -/
def Rules.essence (r : Rules) (s : Bytes) : Bytes :=
  let s := if r.ignoreCase then s.map Char.toLower else s
  match r.blanks with
  | .none => s
  | .tabs => withoutTabs r.tabSize 0 s
  | .trailing => trimmedRight s
  | .tabsAndTrailing => withoutTabs r.tabSize 0 (trimmedRight s)
  | .amount => squeezed false (trimmedRight s)
  | .all => s.filter (!isSpaceByte ·)

/-- What counts of some lines of a text. A line without an end is unlike all others, unless blanks
at the end do not count. -/
def Rules.essences (r : Rules) (s : Side) (first last : Nat) : List Bytes :=
  (List.range (last - first)).map fun i =>
    let body := r.essence (s.line (first + i))
    if s.isOpen (first + i) && r.blanks.rank < Blanks.trailing.rank then body else body ++ ['\n']

/-- Numbers for texts, the same ones for equal texts. -/
def numbered (texts : List Bytes) : Array Nat :=
  let (_, _, numbers) := texts.foldl
    (fun (known, n, numbers) t =>
      match known.lookup t with
      | some i => (known, n, numbers.push i)
      | none => ((t, n) :: known, n + 1, numbers.push n))
    (([] : List (Bytes × Nat)), 1, (#[] : Array Nat))
  numbers

/-! ### Changes -/

/-- How many lines are equal from a place on. -/
def equalFrom (a b : Side) : Nat → Nat → Nat
  | 0, _ => 0
  | fuel + 1, i =>
    if i < a.lines.size && i < b.lines.size && a.whole i == b.whole i then
      equalFrom a b fuel (i + 1) + 1
    else 0

/-- How many lines are equal before two places, up to a number. -/
def equalBefore (a b : Side) : Nat → Nat → Nat → Nat
  | 0, _, _ => 0
  | n + 1, i, j =>
    if 0 < i && 0 < j && a.whole (i - 1) == b.whole (j - 1) then
      equalBefore a b n (i - 1) (j - 1) + 1
    else 0

/-- The changes from one text to another one. Equal lines at both ends are left out first, up to
some of them next to what remains. -/
def changes (r : Rules) (margin : Nat) (a b : Side) : List Change :=
  let front := equalFrom a b (a.lines.size + 1) 0 - margin
  let room := min a.lines.size b.lines.size - front
  let back := equalBefore a b room a.lines.size b.lines.size - margin
  let left := r.essences a front (a.lines.size - back)
  let right := r.essences b front (b.lines.size - back)
  let numbers := numbered (left ++ right)
  (Alignment.changes (numbers.extract 0 left.length) (numbers.extract left.length numbers.size)).map
    fun c => { c with left := c.left + front, right := c.right + front }

/-- Does a line count for nothing by itself? -/
def Rules.isTrivial (r : Rules) (s : Bytes) : Bool :=
  let isEmpty := r.emptyLines &&
    (s.isEmpty || (Blanks.trailing.rank ≤ r.blanks.rank && s.all isSpaceByte))
  isEmpty || r.fitting.any (·.isMatch s)

/-- Does a change count for nothing? -/
def Rules.ignores (r : Rules) (a b : Side) (c : Change) : Bool :=
  (r.emptyLines || r.fitting.isSome)
    && (List.range c.removed).all (fun i => r.isTrivial (a.line (c.left + i)))
    && (List.range c.added).all (fun i => r.isTrivial (b.line (c.right + i)))

/-- The first changes of a list that belong together, and those behind them. They do if there are
few enough lines between them; a change that counts for nothing has to be closer. -/
def together (ignores : Change → Bool) (context : Nat) : Change → List Change →
    List Change × List Change
  | c, [] => ([c], [])
  | c, d :: rest =>
    let limit := if ignores d then context else 2 * context + 1
    if d.left - (c.left + c.removed) < limit then
      let (group, rest) := together ignores context d rest
      (c :: group, rest)
    else ([c], d :: rest)

/-- Changes in groups that belong together. -/
def groups (ignores : Change → Bool) (context : Nat) : Nat → List Change → List (List Change)
  | 0, _ => []
  | _ + 1, [] => []
  | fuel + 1, c :: rest =>
    let (group, rest) := together ignores context c rest
    group :: groups ignores context fuel rest

end SvgSkeleton.Shell.Difference
