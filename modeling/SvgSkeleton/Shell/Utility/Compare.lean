import SvgSkeleton.Shell.Utility.Options
import SvgSkeleton.Shell.Whole

/-!
Two texts side by side. `cmp` finds the first byte in which two files differ, or all of them. `comm`
and `join` take sorted texts: lines of one of them that have no counterpart in the other are told
apart from those that have one, and a text that is not sorted is complained about.
-/

/-! ### `cmp` -/

namespace SvgSkeleton.Shell.Compare

/-- A byte as a character that can be seen. -/
def visible (c : Char) : Bytes :=
  let n := c.toNat
  let (mark, n) : Bytes × Nat := if n < 128 then ([], n) else (['M', '-'], n - 128)
  mark ++ (if n < 32 then ['^', Char.ofNat (n + 64)] else if n = 127 then ['^', '?']
    else [Char.ofNat n])

/-- The octal digits of a byte, in a column. -/
def octal (c : Char) : Bytes := Bytes.padLeft 3 (Nat.toDigits 8 c.toNat)

/-- What is shown of differences. -/
inductive Shows where
  | first
  | all
  | nothing
  deriving DecidableEq

structure Task where
  name : Bytes
  shows : Shows
  bytes : Bool

/-- The bytes in which two texts differ, each with its number. -/
def differences : Nat → Bytes → Bytes → List (Nat × Char × Char)
  | n, c :: s, d :: t =>
    if c = d then differences (n + 1) s t else (n, c, d) :: differences (n + 1) s t
  | _, _, _ => []

/-- A line for a byte that differs. -/
def Task.line (t : Task) (width : Nat) (d : Nat × Char × Char) : Bytes :=
  let (n, c, e) := d
  Bytes.padLeft width (Bytes.ofNat n) ++ ' ' :: octal c
    ++ (if t.bytes then
        let shown := visible c
        ' ' :: shown ++ List.replicate (4 - shown.length) ' ' ++ ' ' :: octal e ++ ' ' :: visible e
      else ' ' :: octal e)
    ++ ['\n']

/-- How the end of the shorter text is told of. -/
def Task.ending (t : Task) (path : Bytes) (common : Bytes) : Bytes :=
  if common.isEmpty then "EOF on ".toList ++ path ++ " which is empty".toList
  else
    let lines := common.count '\n'
    "EOF on ".toList ++ path ++ " after byte ".toList ++ Bytes.ofNat common.length
      ++ (if t.shows = .all then []
        else if common.getLast? = some '\n' then ", line ".toList ++ Bytes.ofNat lines
        else ", in line ".toList ++ Bytes.ofNat (lines + 1))

/-- Compare two texts. -/
def Task.compare (t : Task) (first second : Bytes) (s u : Bytes) : Shell Nat := do
  let found := differences 1 s u
  let shorter := if s.length < u.length then some (first, s)
    else if u.length < s.length then some (second, u) else none
  let tellEnd : Shell Unit := do
    if let some (path, common) := shorter then
      unless t.shows = .nothing do utilityError t.name (t.ending path common)
  match t.shows, found with
  | .nothing, found => return if found.isEmpty && shorter.isNone then 0 else 1
  | .first, (n, c, d) :: _ =>
    let line := (s.take (n - 1)).count '\n' + 1
    write 1 (first ++ ' ' :: second ++ " differ: ".toList
      ++ (if t.bytes then "byte " else "char ").toList ++ Bytes.ofNat n ++ ", line ".toList
      ++ Bytes.ofNat line
      ++ (if t.bytes then " is ".toList ++ octal c ++ ' ' :: visible c ++ ' ' :: octal d ++ ' ' ::
          visible d
        else [])
      ++ ['\n'])
    return 1
  | _, found =>
    tellEnd
    let width := (Bytes.ofNat (min s.length u.length)).length
    write 1 (found.flatMap (t.line width))
    return if found.isEmpty && shorter.isNone then 0 else 1

/-- The numbers of bytes that are passed over on either side. -/
def skips? (text : Bytes) : Option (Nat × Nat) :=
  match Bytes.splitAt ':' text with
  | [a] => (Amount.nat? a).map fun n => (n, n)
  | [a, b] => (Amount.nat? a).bind fun n => (Amount.nat? b).map fun k => (n, k)
  | _ => none

def forms : List OptionForm :=
  [flag 'b' ["print-bytes"], setting 'i' ["ignore-initial"], flag 'l' ["verbose"],
   setting 'n' ["bytes"], flag 's' ["quiet", "silent"]]

end Compare

open Compare in
def cmp : Utility := fun name args => do
  let a ← match readArguments Compare.forms true (args.length + 1) args with
    | .error fault => return ← misusedBy name fault.message
    | .ok a => pure a
  if a.has 'l' && a.has 's' then
    return ← misusedBy name "options -l and -s are incompatible".toList
  let invalid (option : String) (text : Bytes) : Shell Nat :=
    misusedBy name ("invalid --".toList ++ option.toList ++ " value ".toList ++ Quoting.plain text)
  match (a.value? 'n').map Amount.nat?, (a.value? 'i').map skips?, a.operands with
  | some none, _, _ => invalid "bytes" ((a.value? 'n').getD [])
  | _, some none, _ => invalid "ignore-initial" ((a.value? 'i').getD [])
  | _, _, [] => misusedBy name ("missing operand after ".toList ++ Quoting.plain name)
  | limit, skips, first :: rest =>
    let second := rest.headD ['-']
    let given := (skips.bind id).getD (0, 0)
    match (rest.drop 1).map Amount.nat?, rest.drop 3 with
    | _, extra :: _ => misusedBy name ("extra operand ".toList ++ Quoting.plain extra)
    | counts, [] =>
      if counts.any (·.isNone) then
        let text := ((rest.drop 1).zip counts).find? fun e => e.2.isNone
        invalid "ignore-initial" ((text.map (·.1)).getD [])
      else
        let skip := ((counts[0]?).bind id).getD 0 + given.1
        let skipOther := ((counts[1]?).bind id).getD 0 + given.2
        if first = second then return 0
        let shows : Shows := if a.has 'l' then .all else if a.has 's' then .nothing else .first
        let task : Task := ⟨name, shows, a.has 'b'⟩
        match ← readOperand first, ← readOperand second with
        | .ok s, .ok u =>
          let cut (n : Nat) (s : Bytes) : Bytes :=
            match limit.bind id with
            | some m => (s.drop n).take m
            | none => s.drop n
          task.compare first second (cut skip s) (cut skipOther u)
        | .error e, _ =>
          unless a.has 's' do fileError name first e
          return 2
        | _, .error e =>
          unless a.has 's' do fileError name second e
          return 2

end SvgSkeleton.Shell

/-! ### Sorted texts -/

namespace SvgSkeleton.Shell.Sorted

/-- When texts are complained about that are not sorted. -/
inductive Check where
  /-- Only when a line had no counterpart. -/
  | usual
  | always
  | never
  deriving DecidableEq

def checkLetter : Char := Char.ofNat 256
def noCheckLetter : Char := Char.ofNat 257
def delimiterLetter : Char := Char.ofNat 258
def totalLetter : Char := Char.ofNat 259
def headerLetter : Char := Char.ofNat 260

def checkOf (a : Arguments) : Check :=
  match a.last? (String.ofList [checkLetter, noCheckLetter]) with
  | some c => if c = checkLetter then .always else .never
  | none => .usual

/-- The two operands of a call; else it is complained about. -/
def twoOperands (name : Bytes) (operands : List Bytes)
    (act : Bytes → Bytes → Shell Nat) : Shell Nat :=
  match operands with
  | [a, b] => act a b
  | [] => misused name "missing operand".toList 1
  | [a] => misused name ("missing operand after ".toList ++ Quoting.plain a) 1
  | _ :: _ :: extra :: _ => misused name ("extra operand ".toList ++ Quoting.plain extra) 1

/-- What two operands hold; nothing if one of them cannot be read. -/
def contents (tell : Bytes → OsError → Shell Unit) :
    List Bytes → Shell (Option (List Bytes))
  | [] => return some []
  | path :: rest => do
    match ← readOperand path with
    | .ok s => return (← contents tell rest).map (s :: ·)
    | .error e =>
      tell path e
      return none

/-- The order of strings of bytes. -/
def byteOrder (a b : Bytes) : Ordering :=
  if a = b then .eq else if Bytes.inOrder a b then .lt else .gt

/-- A text that is read line by line: the lines ahead, those that have been read, latest first, and
has it been complained about? -/
structure Side where
  ahead : List Bytes
  behind : List Bytes
  warned : Bool

/-- Two lines of a text of which the second one should come first, where that is to be told. -/
def Side.disorder? (order : Bytes → Bytes → Ordering) (s : Side) : Option Bytes :=
  if s.warned then none
  else
    match s.ahead, s.behind with
    | next :: _, last :: _ => if order last next == .gt then some next else none
    | _, _ => none

/-- The side with its next line read. -/
def Side.advanced (s : Side) : Side :=
  match s.ahead with
  | [] => s
  | l :: r => { s with ahead := r, behind := l :: s.behind }

/-! ### `comm` -/

/-- Which columns are shown, and what stands between them. -/
structure Shown where
  first : Bool
  second : Bool
  both : Bool
  between : Bytes
  ending : Char

/-- A line in its column. -/
def Shown.line (c : Shown) (column : Nat) (s : Bytes) : Bytes :=
  let gap (b : Bool) : Bytes := if b then c.between else []
  match column with
  | 1 => if c.first then s ++ [c.ending] else []
  | 2 => if c.second then gap c.first ++ s ++ [c.ending] else []
  | _ => if c.both then gap c.first ++ gap c.second ++ s ++ [c.ending] else []

/-- The state of a comparison: the two sides, has a line had no counterpart, and how many lines
there were in each column. -/
structure Comparison where
  left : Side
  right : Side
  unpaired : Bool
  counts : Nat × Nat × Nat

/-- Go on on a side, and complain if its lines are not in order. The second result says that this
ends all. -/
def stepSide (name : Bytes) (check : Check) (unpaired : Bool) (n : Nat) (s : Side) :
    Shell (Side × Bool) := do
  let s := s.advanced
  let previous := match s.ahead, s.behind with
    | next :: _, last :: _ => some (last, next)
    | [], last :: before :: _ => some (before, last)
    | _, _ => none
  let tells := check = .always || (check = .usual && unpaired)
  match previous with
  | some (a, b) =>
    if tells && !s.warned && byteOrder a b == .gt then
      utilityError name ("file ".toList ++ Bytes.ofNat n ++ " is not in sorted order".toList)
      return ({ s with warned := true }, check = .always)
    else return (s, false)
  | none => return (s, false)

/-- Compare the lines of two texts. -/
def compareLines (name : Bytes) (check : Check) (shown : Shown) :
    Nat → Comparison → Shell (Comparison × Bool)
  | 0, c => return (c, false)
  | fuel + 1, c => do
    let step (line : Bytes) (column : Nat) : Shell (Comparison × Bool) := do
      write 1 (shown.line column line)
      let unpaired := c.unpaired || column != 3
      let (left, stop) ← if column = 2 then pure (c.left, false)
        else stepSide name check unpaired 1 c.left
      if stop then return (c, true)
      let (right, stop) ← if column = 1 then pure (c.right, false)
        else stepSide name check unpaired 2 c.right
      if stop then return (c, true)
      let (x, y, z) := c.counts
      let counts := match column with
        | 1 => (x + 1, y, z)
        | 2 => (x, y + 1, z)
        | _ => (x, y, z + 1)
      compareLines name check shown fuel ⟨left, right, unpaired, counts⟩
    match c.left.ahead, c.right.ahead with
    | [], [] => return (c, false)
    | a :: _, [] => step a 1
    | [], b :: _ => step b 2
    | a :: _, b :: _ =>
      match byteOrder a b with
      | .lt => step a 1
      | .gt => step b 2
      | .eq => step a 3

def commForms : List OptionForm :=
  [flag '1' [], flag '2' [], flag '3' [], flag checkLetter ["check-order"],
   flag noCheckLetter ["nocheck-order"], setting delimiterLetter ["output-delimiter"],
   flag totalLetter ["total"], flag 'z' ["zero-terminated"]]

def comm : Utility := withOptions commForms fun name a =>
  twoOperands name a.operands fun one two => do
    let some [x, y] ← contents (fileError name) [one, two] | return 1
    let ending := if a.has 'z' then '\x00' else '\n'
    let between := match a.value? delimiterLetter with
      | some [] => ['\x00']
      | some s => s
      | none => ['\t']
    let left := piecesAt ending x
    let right := piecesAt ending y
    let shown : Shown := ⟨!a.has '1', !a.has '2', !a.has '3', between, ending⟩
    let (c, stopped) ← compareLines name (checkOf a) shown (left.length + right.length + 1)
      ⟨⟨left, [], false⟩, ⟨right, [], false⟩, false, (0, 0, 0)⟩
    if stopped then return 1
    if a.has totalLetter then
      let (x, y, z) := c.counts
      write 1 (Bytes.join between [Bytes.ofNat x, Bytes.ofNat y, Bytes.ofNat z, "total".toList]
        ++ [ending])
    if c.left.warned || c.right.warned then
      utilityError name "input is not in sorted order".toList
      return 1
    return 0

/-! ### `join` -/

/-- A part of a joined line: the field that both lines share, or a field of one of them. -/
inductive Field where
  | shared
  | of (file field : Nat)

/-- How lines are joined. The fields are counted from zero on. -/
structure Joining where
  /-- What is between fields; nothing for blanks. -/
  separator : Option Char
  /-- Is the whole line a field? -/
  wholeLines : Bool
  first : Nat
  second : Nat
  folds : Bool
  filler : Bytes
  format : Option (List Field)
  /-- Has every line as many fields as the first one of its file? -/
  automatic : Bool
  unpairedFirst : Bool
  unpairedSecond : Bool
  paired : Bool
  check : Check
  ending : Char
  header : Bool

/-- The fields of a line between blanks; blanks at the end make a further one. -/
def blankFields : Nat → Bytes → List Bytes
  | 0, _ => []
  | fuel + 1, s =>
    let field := s.takeWhile (!isFieldBlank ·)
    match s.drop field.length with
    | [] => [field]
    | rest => field :: blankFields fuel (rest.dropWhile isFieldBlank)
where
  isFieldBlank (c : Char) : Bool := isBlankByte c || c == '\n'

/-- The fields of a line. -/
def Joining.fields (j : Joining) (line : Bytes) : List Bytes :=
  if j.wholeLines then [line]
  else
    match j.separator with
    | some c => if line.isEmpty then [] else Bytes.splitAt c line
    | none =>
      match line.dropWhile blankFields.isFieldBlank with
      | [] => []
      | s => blankFields (s.length + 1) s

/-- The order of lines by fields of theirs. -/
def Joining.order (j : Joining) (i k : Nat) (a b : List Bytes) : Ordering :=
  let fold (s : Bytes) : Bytes := if j.folds then s.map Char.toUpper else s
  match a[i]?, b[k]? with
  | none, none => .eq
  | none, some _ => .lt
  | some _, none => .gt
  | some x, some y => byteOrder (fold x) (fold y)

/-- A field as it is shown. -/
def Joining.shown (j : Joining) (line : List Bytes) (i : Nat) : Bytes :=
  let s := line.getD i []
  if s.isEmpty then j.filler else s

/-- The line that two lines, of which one may be missing, are joined to. The counts are those of the
fields of the first lines. -/
def Joining.line (j : Joining) (counts : Nat × Nat) (a b : Option (List Bytes)) : Bytes :=
  let sep := if j.wholeLines then '\n' else j.separator.getD ' '
  let parts := match j.format with
    | some format => format.map fun f =>
      match f with
      | .shared =>
        match a with
        | some l => j.shown l j.first
        | none => j.shown (b.getD []) j.second
      | .of 1 i => j.shown (a.getD []) i
      | .of _ i => j.shown (b.getD []) i
    | none =>
      let others (line : Option (List Bytes)) (key count : Nat) : List Bytes :=
        let n := if j.automatic then count else (line.getD []).length
        ((List.range n).filter (· != key)).map (j.shown (line.getD []))
      let key := match a with
        | some l => j.shown l j.first
        | none => j.shown (b.getD []) j.second
      key :: others a j.first counts.1 ++ others b j.second counts.2
  Bytes.join [sep] parts ++ [j.ending]

/-- A file of lines ahead, with the number of the next one, and the one before it. -/
structure File where
  number : Nat
  path : Bytes
  ahead : List Bytes
  line : Nat
  before : Option (List Bytes)
  warned : Bool

/-- Complaints about a file whose lines are not in order, for its next line. -/
def File.next (f : File) (name : Bytes) (j : Joining) (unpaired : Bool) :
    Shell (Option (List Bytes) × File × Bool) := do
  match f.ahead with
  | [] => return (none, f, false)
  | raw :: rest =>
    let fields := j.fields raw
    let key := if f.number = 1 then j.first else j.second
    let tells := j.check = .always || (j.check = .usual && unpaired)
    let wrong := tells && !f.warned && match f.before with
      | some last => j.order key key last fields == .gt
      | none => false
    let g := { f with ahead := rest, line := f.line + 1, before := some fields,
                      warned := f.warned || wrong }
    if wrong then
      utilityError name (f.path ++ ':' :: Bytes.ofNat f.line ++ ": is not sorted: ".toList ++ raw)
    return (some fields, g, wrong && j.check = .always)

/-- The lines from a line on whose key is that of another line, the line behind them, and the file
behind that. -/
def File.same (name : Bytes) (j : Joining) (unpaired : Bool)
    (isSame : List Bytes → Bool) :
    Nat → File → List (List Bytes) →
      Shell (List (List Bytes) × Option (List Bytes) × File × Bool)
  | 0, f, found => return (found.reverse, none, f, false)
  | fuel + 1, f, found => do
    let (next, f, stop) ← f.next name j unpaired
    match next with
    | none => return (found.reverse, none, f, stop)
    | some l =>
      if stop then return (found.reverse, none, f, true)
      else if isSame l then same name j unpaired isSame fuel f (l :: found)
      else return (found.reverse, some l, f, false)

/-- Join what is left of one file when the other one is at its end. -/
def drain (name : Bytes) (j : Joining) (unpaired shows : Bool)
    (shown : List Bytes → Bytes) : Nat → File → Option (List Bytes) → Shell (File × Bool)
  | 0, f, _ => return (f, false)
  | _ + 1, f, none => return (f, false)
  | fuel + 1, f, some l => do
    if shows then write 1 (shown l)
    if f.warned && !shows then return (f, false)
    let (next, f, stop) ← f.next name j unpaired
    if stop then return (f, true)
    drain name j unpaired shows shown fuel f next

/-- Join two files from a line of each on. -/
def joinLines (name : Bytes) (j : Joining) (counts : Nat × Nat) :
    Nat → Bool → File → File → Option (List Bytes) → Option (List Bytes) →
      Shell (File × File × Bool)
  | 0, _, f, g, _, _ => return (f, g, false)
  | fuel + 1, unpaired, f, g, a, b => do
    match a, b with
    | some x, some y =>
      match j.order j.first j.second x y with
      | .lt =>
        if j.unpairedFirst then write 1 (j.line counts (some x) none)
        let (next, f, stop) ← f.next name j unpaired
        if stop then return (f, g, true)
        joinLines name j counts fuel true f g next b
      | .gt =>
        if j.unpairedSecond then write 1 (j.line counts none (some y))
        let (next, g, stop) ← g.next name j unpaired
        if stop then return (f, g, true)
        joinLines name j counts fuel true f g a next
      | .eq =>
        let (xs, next, f, stop) ← File.same name j unpaired
          (fun l => j.order j.first j.second l y == .eq) (f.ahead.length + 1) f [x]
        if stop then return (f, g, true)
        let (ys, next', g, stop) ← File.same name j unpaired
          (fun l => j.order j.first j.second x l == .eq) (g.ahead.length + 1) g [y]
        if stop then return (f, g, true)
        if j.paired then
          write 1 (xs.flatMap fun x => ys.flatMap fun y => j.line counts (some x) (some y))
        joinLines name j counts fuel unpaired f g next next'
    | a, b =>
      let (f, stop) ← drain name j (unpaired || b.isSome) j.unpairedFirst
        (fun l => j.line counts (some l) none) (f.ahead.length + 2) f a
      if stop then return (f, g, true)
      let (g, stop) ← drain name j (unpaired || a.isSome) j.unpairedSecond
        (fun l => j.line counts none (some l)) (g.ahead.length + 2) g b
      return (f, g, stop)

/-! ### The options of `join` -/

/-- What is wrong with a call. -/
inductive JoinFault where
  | fieldNumber (text : Bytes)
  | fileInSpec (text : Bytes)
  | specifier (text : Bytes)
  | separator (text : Bytes)
  | conflictingFields (a b : Nat)

def JoinFault.message : JoinFault → Bytes
  | .fieldNumber text => "invalid field number: ".toList ++ Quoting.plain text
  | .fileInSpec text => "invalid file number in field spec: ".toList ++ Quoting.plain text
  | .specifier text => "invalid field specifier: ".toList ++ Quoting.plain text
  | .separator text => "multi-character tab ".toList ++ Quoting.plain text
  | .conflictingFields a b =>
    "incompatible join fields ".toList ++ Bytes.ofNat a ++ ", ".toList ++ Bytes.ofNat b

/-- The number of a field, counted from zero on. -/
def fieldOf (text : Bytes) : Except JoinFault Nat :=
  match Bytes.toNat? text with
  | some (n + 1) => .ok n
  | _ => .error (.fieldNumber text)

/-- A part of a joined line as it is written. -/
def partOf (text : Bytes) : Except JoinFault Field :=
  match text with
  | ['0'] => .ok .shared
  | '0' :: _ => .error (.specifier text)
  | c :: '.' :: field =>
    if c = '1' || c = '2' then (fieldOf field).map (.of (c.toNat - '0'.toNat))
    else .error (.fileInSpec text)
  | c :: _ => if c = '1' || c = '2' then .error (.specifier text) else .error (.fileInSpec text)
  | [] => .error (.fileInSpec text)

def joinForms : List OptionForm :=
  [setting 'a' [], setting 'e' [], flag 'i' ["ignore-case"], setting 'j' [], setting '1' [],
   setting '2' [], setting 'o' [], setting 't' [], setting 'v' [], flag 'z' ["zero-terminated"],
   flag checkLetter ["check-order"], flag noCheckLetter ["nocheck-order"],
   flag headerLetter ["header"]]

/-- What is known of a joining while its options are read. -/
structure JoinOptions where
  joining : Joining
  first : Option Nat
  second : Option Nat

/-- The field with a number given to it, unless another one was. -/
def fieldOnce (known : Option Nat) (n : Nat) : Except JoinFault (Option Nat) :=
  match known with
  | some m => if m = n then .ok known else .error (.conflictingFields m n)
  | none => .ok (some n)

def JoinOptions.with (o : JoinOptions) (option : Char) (text : Bytes) :
    Except JoinFault JoinOptions := do
  let j := o.joining
  match option with
  | 'a' | 'v' =>
    let j := if option = 'v' then { j with paired := false } else j
    match text with
    | ['1'] => return { o with joining := { j with unpairedFirst := true } }
    | ['2'] => return { o with joining := { j with unpairedSecond := true } }
    | _ => throw (.fieldNumber text)
  | 'e' => return { o with joining := { j with filler := text } }
  | 'i' => return { o with joining := { j with folds := true } }
  | 'z' => return { o with joining := { j with ending := '\x00' } }
  | '1' => return { o with first := ← fieldOnce o.first (← fieldOf text) }
  | '2' => return { o with second := ← fieldOnce o.second (← fieldOf text) }
  | 'j' =>
    let n ← fieldOf text
    return { o with first := ← fieldOnce o.first n, second := ← fieldOnce o.second n }
  | 't' =>
    match text with
    | [] => return { o with joining := { j with wholeLines := true } }
    | ['\\', '0'] => return { o with joining := { j with separator := some '\x00' } }
    | [c] => return { o with joining := { j with separator := some c } }
    | _ => throw (.separator text)
  | 'o' =>
    if text = "auto".toList then return { o with joining := { j with automatic := true } }
    let words := (Bytes.splitAt ',' (text.map fun c => if isBlankByte c then ',' else c))
    let parts ← words.mapM partOf
    return { o with joining := { j with format := some ((j.format.getD []) ++ parts) } }
  | c =>
    if c = headerLetter then return { o with joining := { j with header := true } }
    else return o

/-- The operands with those that follow the format in its place put into it. -/
def Joining.usual (check : Check) : Joining :=
  ⟨none, false, 0, 0, false, [], none, false, false, false, true, check, '\n', false⟩

def join : Utility := withOptions joinForms fun name a => do
  match a.options.foldlM (fun (o : JoinOptions) x => o.with x.1 x.2)
      ⟨.usual (checkOf a), none, none⟩ with
  | .error fault =>
    utilityError name fault.message
    return 1
  | .ok o =>
    let j := { o.joining with first := o.first.getD 0, second := o.second.getD 0 }
    twoOperands name a.operands fun one two => do
      if one = ['-'] && two = ['-'] then
        utilityError name "both files cannot be standard input".toList
        return 1
      let some [x, y] ← contents (fun path e =>
          if failsLate e then utilityError name ("read error: ".toList ++ reasonText e)
          else fileError name path e) [one, two] | return 1
      let f : File := ⟨1, one, piecesAt j.ending x, 1, none, false⟩
      let g : File := ⟨2, two, piecesAt j.ending y, 1, none, false⟩
      let (a, f, _) ← f.next name j false
      let (b, g, _) ← g.next name j false
      let counts := ((a.getD []).length, (b.getD []).length)
      let titled := j.header && (a.isSome || b.isSome)
      if titled then write 1 (j.line counts a b)
      let (a, f, _) ← if titled then ({ f with before := none } : File).next name j false
        else pure (a, f, false)
      let (b, g, _) ← if titled then ({ g with before := none } : File).next name j false
        else pure (b, g, false)
      let (f, g, stopped) ← joinLines name j counts (f.ahead.length + g.ahead.length + 3) false
        f g a b
      if stopped then return 1
      if f.warned || g.warned then
        utilityError name "input is not in sorted order".toList
        return 1
      return 0

end SvgSkeleton.Shell.Sorted
