import SvgSkeleton.Shell.Regex.Posix
import SvgSkeleton.Shell.Utility.Options
import SvgSkeleton.Shell.Whole

/-!
Lines of a text. `wc` says how many lines, words and bytes there are, and how long the longest line
is. `nl` writes lines with numbers in front of them: a text has pages of a head, a body and a foot,
which lines of delimiters set apart, and which lines of each are numbered, a style says. `uniq`
counts lines that are equal to the one before them, leaves them out or sets them apart.
-/

/-! ### `wc` -/

namespace SvgSkeleton.Shell

/-- Counts of a text: lines, words, characters and bytes, and the width of its widest line. -/
structure Counts where
  lines : Nat
  words : Nat
  bytes : Nat
  widest : Nat

namespace Counts

/-- Words are made of characters that are shown. -/
def wordsOf (s : Bytes) : Nat :=
  (s.foldl (fun (n, inWord) c =>
    if isSpaceByte c then (n, false)
    else if Quoting.isPrintable c then (if inWord then n else n + 1, true)
    else (n, inWord)) (0, false)).1

/-- The width of the widest line. A tab leads to a multiple of eight. -/
def widestOf (s : Bytes) : Nat :=
  let (column, widest) := s.foldl (fun (column, widest) c =>
    match c with
    | '\n' | '\r' | '\x0c' => (0, max column widest)
    | '\t' => (column + (8 - column % 8), widest)
    | c => (if Quoting.isPrintable c then column + 1 else column, widest)) (0, 0)
  max column widest

def of (s : Bytes) : Counts := ⟨s.count '\n', wordsOf s, s.length, widestOf s⟩

def zero : Counts := ⟨0, 0, 0, 0⟩

def add (a b : Counts) : Counts :=
  ⟨a.lines + b.lines, a.words + b.words, a.bytes + b.bytes, max a.widest b.widest⟩

/-- The counts that options ask for. -/
def chosen (c : Counts) (a : Arguments) : List Nat :=
  let all := !(a.has 'l' || a.has 'w' || a.has 'c' || a.has 'm' || a.has 'L')
  (if all || a.has 'l' then [c.lines] else []) ++ (if all || a.has 'w' then [c.words] else [])
    ++ (if a.has 'm' then [c.bytes] else []) ++ (if all || a.has 'c' then [c.bytes] else [])
    ++ (if a.has 'L' then [c.widest] else [])

end Counts

def totalLetter : Char := Char.ofNat 256

def filesLetter : Char := Char.ofNat 257

def wcForms : List OptionForm :=
  [flag 'l' ["lines"], flag 'w' ["words"], flag 'c' ["bytes"],
   flag 'm' ["chars"], flag 'L' ["max-line-length"], setting totalLetter ["total"],
   setting filesLetter ["files0-from"]]

/-- How wide the numbers are shown: as wide as the number of all bytes in the files, and seven
where something is no file. -/
def countWidth (a : Arguments) (operands : List (Option Bytes)) : Shell Nat := do
  if operands.length = 1 && (Counts.zero.chosen a).length = 1 then return 1
  let sizes ← operands.mapM fun path => do
    let place ← match path with
      | none | some ['-'] => pure ((← placeOf? 0).map (·.1))
      | some path => do
        match ← locate path with
        | .ok place => pure (some place)
        | .error _ => return some 0
    match place with
    | none => return none
    | some place =>
      match (← get).tree.at? place with
      | some (.file content) => return some content.size
      | _ => return none
  let digits := (Bytes.ofNat (sumOf (sizes.filterMap id))).length
  return if sizes.any Option.isNone then max 7 digits else digits

/-- Count the operands; without any the input. -/
def countAll (name : Bytes) (a : Arguments) (operands : List (Option Bytes)) : Shell Nat := do
  let total := (a.value? totalLetter).map String.ofList
  let width ← if total = some "only" then pure 1 else countWidth a operands
  let row (c : Counts) (path : Option Bytes) : Bytes :=
    Bytes.join [' '] ((c.chosen a).map fun n => Bytes.padLeft width (Bytes.ofNat n))
      ++ (match path with
        | some p => ' ' :: (if p.contains '\n' then Quoting.always p else p)
        | none => []) ++ ['\n']
  let counts ← operands.mapM fun path => do
    match ← readOperand (path.getD ['-']) with
    | .ok s =>
      let c := Counts.of s
      unless total = some "only" do write 1 (row c path)
      return some c
    | .error e =>
      match path with
      | none => utilityError name ("'standard input': ".toList ++ reasonText e)
      | some path => fileError name path e
      if failsLate e then write 1 (row Counts.zero path)
      return none
  let all := (counts.filterMap id).foldl Counts.add Counts.zero
  match total with
  | some "only" => write 1 (row all none)
  | some "never" => pure ()
  | some "always" => write 1 (row all (some "total".toList))
  | _ => if operands.length > 1 then write 1 (row all (some "total".toList))
  return if counts.all Option.isSome then 0 else 1

def wc : Utility := withOptions wcForms fun name a => do
  match a.value? filesLetter with
  | none =>
    countAll name a (if a.operands.isEmpty then [none] else a.operands.map some)
  | some list =>
    match ← readOperand list with
    | .ok s => countAll name a ((piecesAt '\x00' s).map some)
    | .error e =>
      utilityError name ("cannot open ".toList ++ Quoting.always list ++ " for reading: ".toList
        ++ reasonText e)
      return 1

end SvgSkeleton.Shell

/-! ### `nl` -/

namespace SvgSkeleton.Shell.Numbering

/-- Which lines are numbered. -/
inductive Choice where
  | all
  | filled
  | none
  | matching (m : Matcher)

/-- How numbers are shown. -/
inductive Form where
  | left
  | right
  | zeros
  deriving DecidableEq

/-- The part of a page that a line is in. -/
inductive Part where
  | head
  | body
  | foot
  deriving DecidableEq

structure Style where
  head : Choice
  body : Choice
  foot : Choice
  form : Form
  width : Nat
  separator : Bytes
  delimiter : Bytes
  start : Int
  step : Int
  /-- How many empty lines count as one. -/
  join : Nat
  /-- Do the numbers begin anew on each page? -/
  renews : Bool

/-- What is known before a line: the part of the page, the next number, and how many empty lines
have not counted yet. -/
structure State where
  part : Part
  number : Int
  blanks : Nat

/-- The number of a line as the style shows it. -/
def Style.label (style : Style) (n : Int) : Bytes :=
  let text := Bytes.ofInt n
  let gap := style.width - text.length
  match style.form with
  | .left => text ++ List.replicate gap ' '
  | .right => List.replicate gap ' ' ++ text
  | .zeros =>
    let digits := Bytes.ofNat n.natAbs
    if n < 0 then '-' :: List.replicate gap '0' ++ digits else List.replicate gap '0' ++ digits

def Style.choice (style : Style) : Part → Choice
  | .head => style.head
  | .body => style.body
  | .foot => style.foot

/-- The part of a page that begins at a line of delimiters. -/
def Style.partAt? (style : Style) (line : Bytes) : Option Part :=
  let d := style.delimiter
  if d.isEmpty then none
  else if line = d ++ d ++ d then some .head
  else if line = d ++ d then some .body
  else if line = d then some .foot
  else none

/-- Is a line numbered? The second result is how many empty lines have not counted yet. -/
def Style.counts (style : Style) (s : State) (line : Bytes) : Bool × Nat :=
  match style.choice s.part with
  | .all =>
    if style.join ≤ 1 then (true, s.blanks)
    else if !line.isEmpty || s.blanks = style.join then (true, 1)
    else (false, s.blanks + 1)
  | .filled => (!line.isEmpty, s.blanks)
  | .none => (false, s.blanks)
  | .matching m => (m.isMatch line, s.blanks)

/-- A line, and what is known behind it. -/
def Style.step1 (style : Style) (s : State) (line : Bytes) : Bytes × State :=
  match style.partAt? line with
  | some part =>
    (['\n'], { s with part := part, number := if style.renews then style.start else s.number })
  | none =>
    let (counts, blanks) := style.counts s line
    if counts then
      (style.label s.number ++ style.separator ++ line ++ ['\n'],
       { s with number := s.number + style.step, blanks := blanks })
    else
      (List.replicate (style.width + style.separator.length) ' ' ++ line ++ ['\n'],
       { s with blanks := blanks })

/-- All lines, and what is known behind them. -/
def Style.lines (style : Style) : State → List Bytes → List Bytes × State
  | s, [] => ([], s)
  | s, line :: rest =>
    let (shown, s) := style.step1 s line
    let (others, s) := style.lines s rest
    (shown :: others, s)

/-! ### The options of `nl` -/

def forms : List OptionForm :=
  [setting 'b' ["body-numbering"], setting 'd' ["section-delimiter"],
   setting 'f' ["footer-numbering"], setting 'h' ["header-numbering"],
   setting 'i' ["line-increment"], setting 'l' ["join-blank-lines"],
   setting 'n' ["number-format"], flag 'p' ["no-renumber"],
   setting 's' ["number-separator"], setting 'v' ["starting-line-number"],
   setting 'w' ["number-width"]]

/-- What is wrong with an option. -/
inductive Fault where
  | choice (part : String) (text : Bytes)
  | form (text : Bytes)
  | start (text : Bytes) (why : Amount.Fault)
  | step (text : Bytes) (why : Amount.Fault)
  | join (text : Bytes) (why : Amount.Fault)
  | width (text : Bytes) (why : Amount.Fault)
  | expression (message : Bytes)

def Fault.message : Fault → Bytes
  | .choice part text => ("invalid " ++ part ++ " numbering style: ").toList ++ Quoting.plain text
  | .form text => "invalid line numbering format: ".toList ++ Quoting.plain text
  | .start text why => "invalid starting line number: ".toList ++ Quoting.plain text ++ why.note
  | .step text why => "invalid line number increment: ".toList ++ Quoting.plain text ++ why.note
  | .join text why =>
    "invalid line number of blank lines: ".toList ++ Quoting.plain text ++ why.note
  | .width text why => "invalid line number field width: ".toList ++ Quoting.plain text ++ why.note
  | .expression message => message

/-- Is help offered after the message? -/
def Fault.offersHelp : Fault → Bool
  | .choice .. | .form _ => true
  | _ => false

def choiceOf (part : String) (text : Bytes) : Except Fault Choice :=
  match text with
  | 'a' :: _ => .ok .all
  | 't' :: _ => .ok .filled
  | 'n' :: _ => .ok .none
  | 'p' :: expression =>
    match Regex.Posix.matcher .basic false expression with
    | .ok m => .ok (.matching m)
    | .error fault => .error (.expression fault.message.toList)
  | _ => .error (.choice part text)

/-- A style with the value of an option. -/
def Style.with (style : Style) (option : Char) (text : Bytes) : Except Fault Style := do
  let least : Int := -Int.pow 2 63
  let most : Int := Int.pow 2 63 - 1
  match option with
  | 'b' => return { style with body := ← choiceOf "body" text }
  | 'h' => return { style with head := ← choiceOf "header" text }
  | 'f' => return { style with foot := ← choiceOf "footer" text }
  | 'v' => return { style with start := ← (Amount.within least most text).mapError (.start text) }
  | 'i' => return { style with step := ← (Amount.within least most text).mapError (.step text) }
  | 'l' =>
    return { style with join := ← (Amount.natWithin 1 most.toNat text).mapError (.join text) }
  | 'w' =>
    let width := Amount.natWithin 1 ((1 <<< 31) - 1) text
    return { style with width := ← width.mapError (.width text) }
  | 's' => return { style with separator := text }
  | 'p' => return { style with renews := false }
  | 'd' =>
    return { style with delimiter := if text.length = 1 then text ++ [':'] else text }
  | 'n' =>
    if text = ['l', 'n'] then return { style with form := .left }
    else if text = ['r', 'n'] then return { style with form := .right }
    else if text = ['r', 'z'] then return { style with form := .zeros }
    else .error (.form text)
  | _ => return style

def Style.usual : Style :=
  ⟨.none, .filled, .none, .right, 6, ['\t'], ['\\', ':'], 1, 1, 1, true⟩

end Numbering

def nl : Utility := withOptions Numbering.forms fun name a => do
  match a.options.foldlM (fun (s : Numbering.Style) o => s.with o.1 o.2) .usual with
  | .error fault =>
    utilityError name fault.message
    if fault.offersHelp then tryHelp name
    return 1
  | .ok style =>
    let operands := if a.operands.isEmpty then [['-']] else a.operands
    let contents ← operands.mapM fun path => do
      match ← readOperand path with
      | .ok content => return some content
      | .error e =>
        fileError name path e
        return none
    let lines := contents.flatMap fun content => piecesAt '\n' (content.getD [])
    write 1 (style.lines ⟨.body, style.start, 1⟩ lines).1.flatten
    return if contents.all Option.isSome then 0 else 1

end SvgSkeleton.Shell

/-! ### `uniq` -/

namespace SvgSkeleton.Shell.Repeats

/-- Where empty lines stand around groups. -/
inductive Gaps where
  | none
  | before
  | between
  | behind
  | around
  deriving DecidableEq

/-- What of a line counts. -/
structure Part where
  fields : Nat
  bytes : Nat
  most : Option Nat
  folds : Bool

/-- The line behind so many fields, of which each begins with blanks. -/
def behindFields : Nat → Bytes → Bytes
  | 0, s => s
  | n + 1, s => behindFields n ((s.dropWhile isBlankByte).dropWhile (!isBlankByte ·))

/-- The part of a line that counts. -/
def Part.of (p : Part) (line : Bytes) : Bytes :=
  let s := (behindFields p.fields line).drop p.bytes
  let s := match p.most with
    | some n => s.take n
    | none => s
  if p.folds then s.map Char.toUpper else s

/-- The lines in groups of neighbours of which the same counts. -/
def groups (p : Part) (lines : List Bytes) : List (List Bytes) :=
  lines.splitBy fun a b => p.of a == p.of b

/-- Groups with empty lines around them. -/
def withGaps (gaps : Gaps) (groups : List (List Bytes)) : List Bytes :=
  match gaps with
  | .none => groups.flatten
  | .before => groups.flatMap fun g => [] :: g
  | .between => (groups.intersperse [[]]).flatten
  | .behind => groups.flatMap fun g => g ++ [[]]
  | .around => if groups.isEmpty then [] else groups.flatMap (fun g => [] :: g) ++ [[]]

def allLetter : Char := Char.ofNat 256
def groupLetter : Char := Char.ofNat 257

def forms : List OptionForm :=
  [flag 'c' ["count"], flag 'd' ["repeated"], flag 'D' [], variant allLetter ["all-repeated"],
   setting 'f' ["skip-fields"], variant groupLetter ["group"], flag 'i' ["ignore-case"],
   setting 's' ["skip-chars"], flag 'u' ["unique"], flag 'z' ["zero-terminated"],
   setting 'w' ["check-chars"]]

/-- The words for gaps, of those that an option takes. -/
def gapWords : List (String × Gaps) :=
  [("none", .none), ("prepend", .before), ("separate", .between), ("append", .behind),
   ("both", .around)]

/-- The gaps that a word means; the error lists the words. -/
def gapsOf (words : List String) (usual : Gaps) (text : Bytes) : Except (List String) Gaps :=
  if text.isEmpty then .ok usual
  else
    match gapWords.filter fun w => words.contains w.1 && text.isPrefixOf w.1.toList with
    | [(_, g)] => .ok g
    | _ => .error words

def allWords : List String := ["none", "prepend", "separate"]
def groupWords : List String := ["prepend", "append", "separate", "both"]

/-- Complain of a word that is none of those that an option takes. -/
def invalidWord (name : Bytes) (option : String) (given : Bytes) (words : List String) :
    Shell Nat := do
  utilityError name ("invalid argument ".toList ++ Quoting.plain given ++ " for ".toList
    ++ Quoting.plain option.toList)
  write 2 "Valid arguments are:\n".toList
  words.forM fun w => write 2 ("  - ".toList ++ Quoting.plain w.toList ++ ['\n'])
  tryHelp name
  return 1

/-- The arguments with a number behind a dash as the number of fields to skip. -/
def fieldsFirst (args : List Bytes) : List Bytes :=
  args.map fun a =>
    match a with
    | '-' :: c :: r => if c.isDigit && r.all Char.isDigit then '-' :: 'f' :: c :: r else a
    | _ => a

/-- The lines that options ask for. -/
def chosen (a : Arguments) (part : Part) (all grouped : Option Gaps) (lines : List Bytes) :
    List Bytes :=
  let found := groups part lines
  match grouped, all with
  | some gaps, _ => withGaps gaps found
  | none, some gaps =>
    if a.has 'u' then [] else withGaps gaps (found.filter (1 < ·.length))
  | none, none =>
    let kept := found.filter fun g => (!a.has 'd' || 1 < g.length) && (!a.has 'u' || g.length = 1)
    kept.filterMap fun g => g.head?.map fun line =>
      if a.has 'c' then Bytes.padLeft 7 (Bytes.ofNat g.length) ++ ' ' :: line else line

/-- Work on the input and the output that operands name. -/
def run (name : Bytes) (a : Arguments) (part : Part) (all grouped : Option Gaps) : Shell Nat := do
  let ending := if a.has 'z' then '\x00' else '\n'
  let path := a.operands.headD ['-']
  match ← readOperand path with
  | .error e =>
    if failsLate e then
      utilityError name ("error reading ".toList ++ Quoting.always path ++ ": ".toList
        ++ reasonText e)
    else fileError name path e
    return 1
  | .ok content =>
    let shown := chosen a part all grouped (piecesAt ending content)
    let text := shown.flatMap fun line => line ++ [ending]
    match a.operands[1]? with
    | none | some ['-'] =>
      write 1 text
      return 0
    | some path =>
      match ← putFile path false text with
      | .ok _ => return 0
      | .error e =>
        fileError name path e
        return 1

end Repeats

open Repeats in
def uniq : Utility := fun name args =>
  withOptions Repeats.forms (fun name a => do
    let number (letter : Char) : Except Bytes (Option Nat) :=
      match a.value? letter with
      | none => .ok none
      | some text =>
        match Bytes.toNat? text with
        | some n => .ok (some n)
        | none => .error text
    let all := match a.value? allLetter with
      | some text => (gapsOf allWords .none text).map some
      | none => .ok (if a.has 'D' then some .none else none)
    let grouped := match a.value? groupLetter with
      | some text => (gapsOf groupWords .between text).map some
      | none => .ok none
    let invalid (what : String) (text : Bytes) : Shell Nat := do
      utilityError name (Quoting.ifNeeded text ++ (": invalid number of " ++ what).toList)
      return 1
    match number 'f', number 's', number 'w', all, grouped with
    | .error text, _, _, _, _ => invalid "fields to skip" text
    | _, .error text, _, _, _ => invalid "bytes to skip" text
    | _, _, .error text, _, _ => invalid "bytes to compare" text
    | _, _, _, .error words, _ =>
      invalidWord name "--all-repeated" ((a.value? allLetter).getD []) words
    | _, _, _, _, .error words => invalidWord name "--group" ((a.value? groupLetter).getD []) words
    | .ok fields, .ok bytes, .ok most, .ok all, .ok grouped =>
      match a.operands with
      | _ :: _ :: extra :: _ =>
        misused name ("extra operand ".toList ++ Quoting.plain extra) 1
      | _ =>
        if grouped.isSome && (a.has 'c' || a.has 'd' || all.isSome || a.has 'u') then
          misused name "--group is mutually exclusive with -c/-d/-D/-u".toList 1
        else if all.isSome && a.has 'c' then
          misused name
            "printing all duplicated lines and repeat counts is meaningless".toList 1
        else
          Repeats.run name a ⟨fields.getD 0, bytes.getD 0, most, a.has 'i'⟩ all grouped)
    name (Repeats.fieldsFirst args)

end SvgSkeleton.Shell
