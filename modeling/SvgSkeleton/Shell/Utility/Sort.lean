import SvgSkeleton.Shell.Digest
import SvgSkeleton.Shell.Floating
import SvgSkeleton.Shell.Utility.Options
import SvgSkeleton.Shell.Bytes

/-!
`sort`: lines in the order of their keys. A key is a part of the line, and a rule says how such
parts compare; lines whose keys are equal are in the order of their bytes.
-/

namespace SvgSkeleton.Shell.Sorting

/-! ### Rules -/

/-- What the parts of lines are taken for. -/
inductive Kind where
  | text
  | numeral
  | floating
  | amount
  | month
  | version
  | random
  deriving DecidableEq

/-- How parts of lines compare. -/
structure Rule where
  kinds : List Kind
  /-- Do only blanks, letters and digits count? -/
  dictionary : Bool
  /-- Do only those bytes count that are shown? -/
  printable : Bool
  folds : Bool
  reversed : Bool
  /-- Are blanks skipped before the first byte counts, and before the last one does? -/
  skipsAtStart : Bool
  skipsAtEnd : Bool

def Rule.usual : Rule := ⟨[], false, false, false, false, false, false⟩

/-- The rule with a letter added, at the start or the end of a key. -/
def Rule.with? (r : Rule) (start finish : Bool) (letter : Char) : Option Rule :=
  let kind (k : Kind) : Option Rule :=
    some { r with kinds := if r.kinds.contains k then r.kinds else k :: r.kinds }
  match letter with
  | 'b' =>
    some { r with skipsAtStart := r.skipsAtStart || start, skipsAtEnd := r.skipsAtEnd || finish }
  | 'd' => some { r with dictionary := true, printable := false }
  | 'f' => some { r with folds := true }
  | 'g' => kind .floating
  | 'h' => kind .amount
  | 'i' => some (if r.dictionary then r else { r with printable := true })
  | 'M' => kind .month
  | 'n' => kind .numeral
  | 'R' => kind .random
  | 'r' => some { r with reversed := true }
  | 'V' => kind .version
  | _ => none

/-- Does the rule leave all bytes as they are, whatever its direction? -/
def Rule.isPlain (r : Rule) : Bool :=
  r.kinds.isEmpty && !r.dictionary && !r.printable && !r.folds && !r.skipsAtStart && !r.skipsAtEnd

/-- The letters of a rule that do not go together. -/
def Rule.conflict? (r : Rule) : Option Bytes :=
  let has (k : Kind) : Bool := r.kinds.contains k
  let ignores := r.dictionary || r.printable
  let plain := has .version || has .random || ignores
  let count := [has .numeral, has .floating, has .amount, has .month, plain].count true
  if count ≤ 1 then none
  else
    let letters := [(r.dictionary, 'd'), (r.folds, 'f'), (has .floating, 'g'), (has .amount, 'h'),
      (r.printable, 'i'), (has .month, 'M'), (has .numeral, 'n'), (has .random, 'R'),
      (has .version, 'V')]
    some ((letters.filter (·.1)).map (·.2))

/-! ### Numerals -/

/-- A numeral: its sign, and its digits in front of the point and behind it without idle zeros. -/
structure Numeral where
  negative : Bool
  whole : Bytes
  fraction : Bytes
  /-- What follows it. -/
  rest : Bytes

def Numeral.isZero (n : Numeral) : Bool := n.whole.isEmpty && n.fraction.isEmpty

/-- The numeral at the front of a text. -/
def Numeral.read (s : Bytes) : Numeral :=
  let s := s.dropWhile isBlankByte
  let (negative, r) := match s with
    | '-' :: r => (true, r)
    | r => (false, r)
  let whole := r.takeWhile Char.isDigit
  let (fraction, rest) := match r.drop whole.length with
    | '.' :: t =>
      let f := t.takeWhile Char.isDigit
      (f, t.drop f.length)
    | t => ([], t)
  ⟨negative, whole.dropWhile (· == '0'), (fraction.reverse.dropWhile (· == '0')).reverse, rest⟩

/-- The order of strings of bytes. -/
def byteOrder (a b : Bytes) : Ordering :=
  if a = b then .eq else if Bytes.inOrder a b then .lt else .gt

def Numeral.compareSizes (a b : Numeral) : Ordering :=
  (compare a.whole.length b.whole.length).then
    ((byteOrder a.whole b.whole).then (byteOrder a.fraction b.fraction))

def Numeral.compare (a b : Numeral) : Ordering :=
  match a.negative && !a.isZero, b.negative && !b.isZero with
  | false, false => a.compareSizes b
  | true, true => b.compareSizes a
  | true, false => .lt
  | false, true => .gt

/-- The rank of the unit behind a numeral. -/
def Numeral.unitRank (n : Numeral) : Int :=
  if n.isZero then 0
  else
    let rank : Int := match n.rest.head? with
      | some c =>
        if c = 'k' then 1 else ((("KMGTPEZYRQ".toList.findIdx? (· == c)).map (· + 1)).getD 0 : Nat)
      | none => 0
    if n.negative then -rank else rank

/-- The order of numbers with a fraction: what is no number comes first, and undefined ones before
all that are defined. -/
def compareFloating (a b : Bytes) : Ordering :=
  let x := Floating.read .extended a
  let y := Floating.read .extended b
  match x.rest.length == a.length, y.rest.length == b.length with
  | true, true => .eq
  | true, false => .lt
  | false, true => .gt
  | false, false =>
    match x.value, y.value with
    | .undefined _, .undefined _ => .eq
    | .undefined _, _ => .lt
    | _, .undefined _ => .gt
    | v, w => (v.order? w).getD .eq

def months : List String :=
  ["JAN", "FEB", "MAR", "APR", "MAY", "JUN", "JUL", "AUG", "SEP", "OCT", "NOV", "DEC"]

/-- The number of the month whose name a text begins with; zero if there is none. -/
def monthOf (s : Bytes) : Nat :=
  let start := ((s.dropWhile isBlankByte).take 3).map Char.toUpper
  ((months.findIdx? (·.toList == start)).map (· + 1)).getD 0

/-! ### Keys -/

/-- A key: the field and the byte in it at which it begins, those at which it ends, and its rule.
All of them are counted from zero on; if it ends with a whole field, no byte is given. -/
structure Key where
  field : Nat
  offset : Nat
  endField : Option Nat
  endOffset : Nat
  rule : Rule

/-- What follows so many fields. -/
def behindFields (sep : Option Char) : Nat → Bytes → Bytes
  | 0, s => s
  | n + 1, s =>
    match sep with
    | some c => behindFields sep n ((s.dropWhile (· != c)).drop 1)
    | none => behindFields sep n ((s.dropWhile isBlankByte).dropWhile (!isBlankByte ·))

/-- What follows the last field of a key. -/
def behindLast (sep : Option Char) (n : Nat) (s : Bytes) : Bytes :=
  match sep, n with
  | some c, n + 1 => (behindFields sep n s).dropWhile (· != c)
  | _, n => behindFields sep n s

/-- The part of a line that a key takes. -/
def Key.part (k : Key) (sep : Option Char) (line : Bytes) : Bytes :=
  let start := behindFields sep k.field line
  let start := if k.rule.skipsAtStart then start.dropWhile isBlankByte else start
  let start := start.drop k.offset
  match k.endField with
  | none => start
  | some n =>
    let rest :=
      if k.endOffset = 0 then behindLast sep (n + 1) line
      else
        let rest := behindFields sep n line
        let rest := if k.rule.skipsAtEnd then rest.dropWhile isBlankByte else rest
        rest.drop k.endOffset
    start.take (start.length - rest.length)

/-- The bytes of a part that count. In place of a part that is to stand anywhere there is a digest of
it. -/
def Rule.counted (r : Rule) (salt s : Bytes) : Bytes :=
  let s := if r.dictionary then s.filter fun c => c.isAlphanum || isBlankByte c
    else if r.printable then s.filter Quoting.isPrintable else s
  let s := if r.folds then s.map Char.toUpper else s
  if r.kinds.contains .random then Digest.md5 (salt ++ s) ++ s else s

/-- The order of two parts. -/
def Rule.compare (r : Rule) (a b : Bytes) : Ordering :=
  let o : Ordering :=
    if r.kinds.contains .numeral then (Numeral.read a).compare (Numeral.read b)
    else if r.kinds.contains .floating then compareFloating a b
    else if r.kinds.contains .amount then
      let x := Numeral.read a
      let y := Numeral.read b
      (Ord.compare x.unitRank y.unitRank).then (x.compare y)
    else if r.kinds.contains .month then Ord.compare (monthOf a) (monthOf b)
    else if r.kinds.contains .version then Version.compareNames a b
    else byteOrder a b
  if r.reversed then o.swap else o

/-! ### Reading keys -/

/-- What is wrong with a call. -/
inductive Fault where
  | specification (why : String) (text : Bytes)
  | count (why : String) (text : Bytes)
  | conflict (letters : Bytes)
  | emptySeparator
  | longSeparator (text : Bytes)
  | twoSeparators
  | extraOperand (path : Bytes) (letter : Char)
  | choice (option : String) (text : Bytes) (valid : List (String × Char))

def Fault.message : Fault → Bytes
  | .specification why text =>
    why.toList ++ ": invalid field specification ".toList ++ Quoting.plain text
  | .count why text => why.toList ++ ": invalid count at start of ".toList ++ Quoting.plain text
  | .conflict letters => "options '-".toList ++ letters ++ "' are incompatible".toList
  | .emptySeparator => "empty tab".toList
  | .longSeparator text => "multi-character tab ".toList ++ Quoting.plain text
  | .twoSeparators => "incompatible tabs".toList
  | .extraOperand path letter =>
    "extra operand ".toList ++ Quoting.always path ++ " not allowed with -".toList ++ [letter]
  | .choice option text _ =>
    "invalid argument ".toList ++ Quoting.plain text ++ " for ".toList
      ++ Quoting.plain option.toList

/-- The number at the front of a text, and what follows it. -/
def countAt (why : String) (s : Bytes) : Except Fault (Nat × Bytes) :=
  let digits := s.takeWhile Char.isDigit
  if digits.isEmpty then .error (.count why s)
  else .ok (Text.ofDigits 10 digits, s.drop digits.length)

/-- The rule with the letters at the front of a text, and what follows them. -/
def withLetters (start finish : Bool) (r : Rule) : Bytes → Rule × Bytes
  | [] => (r, [])
  | c :: s =>
    match r.with? start finish c with
    | some r => withLetters start finish r s
    | none => (r, c :: s)

/-- Read a key. -/
def readKey (text : Bytes) : Except Fault Key := do
  let (field, s) ← countAt "invalid number at field start" text
  if field = 0 then throw (.specification "field number is zero" text)
  let (offset, s) ← match s with
    | '.' :: s => do
      let (n, s) ← countAt "invalid number after '.'" s
      if n = 0 then throw (.specification "character offset is zero" text)
      pure (n - 1, s)
    | s => pure (0, s)
  let (rule, s) := withLetters true false .usual s
  match s with
  | [] => return ⟨field - 1, offset, none, 0, rule⟩
  | ',' :: s =>
    let (last, s) ← countAt "invalid number after ','" s
    if last = 0 then throw (.specification "field number is zero" text)
    let (lastOffset, s) ← match s with
      | '.' :: s => countAt "invalid number after '.'" s
      | s => pure (0, s)
    match withLetters false true rule s with
    | (rule, []) => return ⟨field - 1, offset, some (last - 1), lastOffset, rule⟩
    | _ => throw (.specification "stray character in field spec" text)
  | _ => throw (.specification "stray character in field spec" text)

/-! ### Calls -/

/-- What a call asks for. -/
structure Job where
  rule : Rule
  keys : List Key
  separator : Option Char
  unique : Bool
  stable : Bool
  merges : Bool
  zero : Bool
  check : Option Char
  output : Option Bytes

def Job.usual : Job := ⟨.usual, [], none, false, false, false, false, none, none⟩

/-- The words for kinds of orders. -/
def kindWords : List (String × Char) :=
  [("general-numeric", 'g'), ("human-numeric", 'h'), ("month", 'M'), ("numeric", 'n'),
   ("random", 'R'), ("version", 'V')]

/-- The words for ways to check. -/
def checkWords : List (String × Char) := [("quiet", 'C'), ("silent", 'C'), ("diagnose-first", 'c')]

/-- What a word means that may be shortened. -/
def choiceOf (option : String) (words : List (String × Char)) (text : Bytes) :
    Except Fault Char :=
  let begun := words.filter fun w => text.isPrefixOf w.1.toList
  match begun with
  | (_, c) :: rest =>
    if rest.all (·.2 == c) then .ok c else .error (.choice option text words)
  | [] => .error (.choice option text words)

def sortLetter : Char := Char.ofNat 256
def sizeLetter : Char := Char.ofNat 257

def sourceLetter : Char := Char.ofNat 259
def checkLetter : Char := Char.ofNat 258

def forms : List OptionForm :=
  [flag 'b' ["ignore-leading-blanks"], flag 'd' ["dictionary-order"], flag 'f' ["ignore-case"],
   flag 'g' ["general-numeric-sort"], flag 'h' ["human-numeric-sort"],
   flag 'i' ["ignore-nonprinting"], flag 'M' ["month-sort"], flag 'n' ["numeric-sort"],
   flag 'R' ["random-sort"], flag 'r' ["reverse"], flag 'V' ["version-sort"],
   flag 'C' [], flag 'c' [], variant checkLetter ["check"], setting 'k' ["key"],
   flag 'm' ["merge"], setting 'o' ["output"], flag 's' ["stable"], setting 'S' ["buffer-size"],
   setting 't' ["field-separator"], setting 'T' ["temporary-directory"], flag 'u' ["unique"],
   flag 'z' ["zero-terminated"], setting sortLetter ["sort"],
   setting sizeLetter ["batch-size", "parallel", "compress-program"],
   setting sourceLetter ["random-source"]]

/-- The way to check that an option asks for, beside the one that is known. -/
def Job.checking (j : Job) (c : Char) : Except Fault Job :=
  match j.check with
  | some d => if d = c then .ok j else .error (.conflict ['c', 'C'])
  | none => .ok { j with check := some c }

/-- The job with an option. -/
def Job.with (j : Job) (option : Char) (text : Bytes) : Except Fault Job := do
  match option with
  | 'k' => return { j with keys := j.keys ++ [← readKey text] }
  | 'u' => return { j with unique := true }
  | 's' => return { j with stable := true }
  | 'm' => return { j with merges := true }
  | 'z' => return { j with zero := true }
  | 'o' => return { j with output := some text }
  | 'c' | 'C' => j.checking option
  | 't' =>
    let sep ← match text with
      | [] => throw .emptySeparator
      | ['\\', '0'] => pure '\x00'
      | [c] => pure c
      | _ => throw (.longSeparator text)
    if j.separator.any (· != sep) then throw .twoSeparators
    return { j with separator := some sep }
  | c =>
    if c = sortLetter then
      let letter ← choiceOf "--sort" kindWords text
      return { j with rule := (j.rule.with? true true letter).getD j.rule }
    else if c = checkLetter then
      if text.isEmpty then j.checking 'c' else j.checking (← choiceOf "--check" checkWords text)
    else return { j with rule := (j.rule.with? true true c).getD j.rule }

/-- The job that options ask for. -/
def jobOf (a : Arguments) : Except Fault Job := do
  let j ← a.options.foldlM (fun (j : Job) o => j.with o.1 o.2) .usual
  let keys := j.keys.map fun k =>
    if k.rule.isPlain && !k.rule.reversed then { k with rule := j.rule } else k
  let keys := if keys.isEmpty && !j.rule.isPlain then [⟨0, 0, none, 0, j.rule⟩] else keys
  match keys.findSome? (·.rule.conflict?) with
  | some letters => throw (.conflict letters)
  | none =>
    match j.check, a.operands with
    | some c, _ :: extra :: _ => throw (.extraOperand extra c)
    | some c, _ => if j.output.isSome then throw (.conflict [c, 'o'])
    | none, _ => pure ()
    return { j with keys := keys }

/-- Are there keys whose parts stand anywhere? -/
def Job.mixes (j : Job) : Bool := j.keys.any fun k => k.rule.kinds.contains .random

/-- How many bytes stand in front of what stands anywhere. -/
def saltSize : Nat := 16

/-- A line with the parts of it that its keys take. -/
structure Entry where
  line : Bytes
  parts : List Bytes

def Job.entry (j : Job) (salt line : Bytes) : Entry :=
  ⟨line, j.keys.map fun k => k.rule.counted salt (k.part j.separator line)⟩

/-- The order of two lines by their keys. -/
def Job.compareKeys (j : Job) (a b : Entry) : Ordering :=
  ((j.keys.zip (a.parts.zip b.parts)).map fun p => p.1.rule.compare p.2.1 p.2.2).foldl
    Ordering.then .eq

/-- The order of two lines. -/
def Job.compare (j : Job) (a b : Entry) : Ordering :=
  match j.compareKeys a b with
  | .eq =>
    if (j.unique || j.stable) && !j.keys.isEmpty then .eq
    else
      let o := byteOrder a.line b.line
      if j.rule.reversed then o.swap else o
  | o => o

/-- The lines without those that compare equal to the one before. -/
def withoutRepeats (j : Job) : List Entry → List Entry
  | a :: b :: r =>
    if j.compare a b == .eq then withoutRepeats j (a :: r) else a :: withoutRepeats j (b :: r)
  | ls => ls
termination_by ls => ls.length

/-- The first line that should stand before the one in front of it, with its number. -/
def disorder? (j : Job) : Nat → List Entry → Option (Nat × Bytes)
  | n, a :: b :: r =>
    let o := j.compare a b
    if o == .gt || (j.unique && o == .eq) then some (n + 1, b.line)
    else disorder? j (n + 1) (b :: r)
  | _, _ => none

/-- Texts put together by always taking the least of their first lines. -/
def merged (j : Job) (a b : List Entry) : List Entry := a.merge b fun x y => j.compare x y != .gt

/-- What the operands hold, if all can be read. -/
def readAll (name : Bytes) (ending : Char) : List Bytes → Shell (Option (List (List Bytes)))
  | [] => return some []
  | path :: rest => do
    match ← readOperand path with
    | .ok s => return (← readAll name ending rest).map (piecesAt ending s :: ·)
    | .error e =>
      let closed := (← streamOf? 0).isNone
      let fails := if !failsLate e then "cannot read: "
        else if path = ['-'] && closed then "stat failed: "
        else "read failed: "
      utilityError name (fails.toList ++ Quoting.ifNeeded path ++ ": ".toList ++ reasonText e)
      return none

/-- The first operand that cannot be opened, and why. -/
def unreadable? : List Bytes → Shell (Option (Bytes × OsError))
  | [] => return none
  | path :: rest => do
    if path = ['-'] then unreadable? rest
    else
      match ← nodeAt? path with
      | .ok _ => unreadable? rest
      | .error e => return some (path, e)

/-- What stands in front of parts that stand anywhere, if it can be read. -/
def saltOf (name : Bytes) (a : Arguments) (j : Job) : Shell (Option Bytes) := do
  match a.value? sourceLetter with
  | none => return some (Noise.bytes saltSize (← get).time).1
  | some path =>
    if !j.mixes then return some []
    match ← readFile path with
    | .error e =>
      utilityError name ("open failed: ".toList ++ Quoting.ifNeeded path ++ ": ".toList
        ++ reasonText e)
      return none
    | .ok bytes =>
      if bytes.length < saltSize then
        utilityError name (Quoting.plain path ++ ": end of file".toList)
        return none
      return some (bytes.take saltSize)

end Sorting

open Sorting in
def sort : Utility := withOptionsElse 2 Sorting.forms fun name a => do
  match jobOf a with
  | .error fault =>
    utilityError name fault.message
    if let .choice _ _ valid := fault then
      write 2 "Valid arguments are:\n".toList
      (valid.splitBy fun v w => v.2 == w.2).forM fun same => write 2 ("  - ".toList
        ++ Bytes.join ", ".toList (same.map fun v => Quoting.plain v.1.toList) ++ ['\n'])
      tryHelp name
    return 2
  | .ok j =>
    let operands := if a.operands.isEmpty then [['-']] else a.operands
    if let some (path, e) ← unreadable? operands then
      utilityError name ("cannot read: ".toList ++ Quoting.ifNeeded path ++ ": ".toList
        ++ reasonText e)
      return 2
    let some salt ← saltOf name a j | return 2
    let ending := if j.zero then '\x00' else '\n'
    let some texts ← Sorting.readAll name ending operands | return 2
    let texts := texts.map (·.map (j.entry salt))
    if let some c := j.check then
      match disorder? j 1 texts.flatten with
      | none => return 0
      | some (n, line) =>
        if c = 'c' then
          utilityError name (operands.headD ['-'] ++ ':' :: Bytes.ofNat n ++ ": disorder: ".toList
            ++ line)
        return 1
    let sorted := if j.merges then texts.foldl (merged j) []
      else texts.flatten.mergeSort fun x y => j.compare x y != .gt
    let sorted := if j.unique then withoutRepeats j sorted else sorted
    let text := sorted.flatMap fun e => e.line ++ [ending]
    match j.output with
    | none =>
      write 1 text
      return 0
    | some path =>
      match ← putFile path false text with
      | .ok _ => return 0
      | .error e =>
        utilityError name ("open failed: ".toList ++ Quoting.ifNeeded path ++ ": ".toList
          ++ reasonText e)
        return 2

end SvgSkeleton.Shell
