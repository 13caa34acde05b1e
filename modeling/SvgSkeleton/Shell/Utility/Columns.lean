import SvgSkeleton.Shell.Utility.Options

/-!
`cut` and `paste`: lines taken apart into fields, and lines put together from fields.
-/

namespace SvgSkeleton.Shell.Columns

/-! ### Lists of numbers -/

/-- A range of numbers; it may have no end. -/
structure Range where
  first : Nat
  last : Option Nat

def Range.holds (r : Range) (n : Nat) : Bool := r.first ≤ n && r.last.all (n ≤ ·)

/-- Why a text is no list of ranges. -/
inductive Fault where
  | zero
  | twoDashes
  | noEnds
  | decreasing
  | tooLarge (text : Bytes)
  | character (text : Bytes)
  | missing

/-- The words for it, where fields are counted or bytes. -/
def Fault.message (fields : Bool) : Fault → Bytes
  | .zero =>
    (if fields then "fields are numbered from 1"
      else "byte/character positions are numbered from 1").toList
  | .twoDashes =>
    (if fields then "invalid field range" else "invalid byte or character range").toList
  | .noEnds => "invalid range with no endpoint: -".toList
  | .decreasing => "invalid decreasing range".toList
  | .tooLarge text =>
    (if fields then "field number " else "byte/character offset ").toList ++ Quoting.plain text
      ++ " is too large".toList
  | .character text =>
    (if fields then "invalid field value " else "invalid byte/character position ").toList
      ++ Quoting.plain text
  | .missing =>
    (if fields then "missing list of fields"
      else "missing list of byte/character positions").toList

/-- The greatest number that a list may hold. -/
def mostNumber : Nat := (1 <<< 64) - 1

/-- The number that digits write. -/
def number (digits : Bytes) : Except Fault Nat :=
  let n := Text.ofDigits 10 digits
  if mostNumber ≤ n then .error (.tooLarge digits) else .ok n

/-- The range that an item of a list names. What follows it is for a message. -/
def range (item rest : Bytes) : Except Fault Range := do
  let low := item.takeWhile Char.isDigit
  match item.drop low.length with
  | [] =>
    let n ← number low
    if n = 0 then throw .zero
    return ⟨n, some n⟩
  | '-' :: after =>
    let n ← number low
    if !low.isEmpty && n = 0 then throw .zero
    let high := after.takeWhile Char.isDigit
    match after.drop high.length with
    | [] =>
      if low.isEmpty && high.isEmpty then throw .noEnds
      let first := if low.isEmpty then 1 else n
      if high.isEmpty then return ⟨first, none⟩
      let last ← number high
      if last < first then throw .decreasing
      return ⟨first, some last⟩
    | '-' :: _ => throw .twoDashes
    | bad => throw (.character (bad ++ rest))
  | bad => throw (.character (bad ++ rest))

/-- The ranges that a list names, of which the text is given. -/
def ranges : List Bytes → Except Fault (List Range)
  | [] => .ok []
  | item :: rest => do
    let r ← range item (rest.flatMap fun i => ',' :: i)
    return r :: (← ranges rest)

/-- Ranges in ascending order, those that overlap as one. -/
def merged : List Range → List Range
  | a :: b :: r =>
    if a.last.all (b.first ≤ ·) then
      let last := match a.last, b.last with
        | some x, some y => some (max x y)
        | _, _ => none
      merged (⟨a.first, last⟩ :: r)
    else a :: merged (b :: r)
  | rs => rs
termination_by rs => rs.length

/-- The ranges of the numbers that are in none of some ranges, which are in order, from a number
on. -/
def complement (start : Nat) : List Range → List Range
  | [] => [⟨start, none⟩]
  | r :: rest =>
    let before := if start < r.first then [⟨start, some (r.first - 1)⟩] else []
    match r.last with
    | none => before
    | some n => before ++ complement (n + 1) rest

/-- The list of ranges that a text writes. -/
def rangesOf (complemented : Bool) (text : Bytes) : Except Fault (List Range) := do
  let items := Bytes.splitAt ',' (text.map fun c => if isBlankByte c then ',' else c)
  let found ← ranges items
  let sorted := merged (found.mergeSort fun a b => a.first ≤ b.first)
  return if complemented then complement 1 sorted else sorted

/-! ### `cut` -/

/-- The bytes of a line in ranges, with a text between ranges. -/
def bytesIn (between : Bytes) (ranges : List Range) (line : Bytes) : Bytes :=
  let parts := ranges.filterMap fun r =>
    let part := (match r.last with
      | some n => line.take n
      | none => line).drop (r.first - 1)
    if part.isEmpty then none else some part
  Bytes.join between parts

/-- The fields of a line in ranges. -/
def fieldsIn (ranges : List Range) (fields : List Bytes) : List Bytes :=
  (fields.zipIdx.filter fun f => ranges.any (·.holds (f.2 + 1))).map (·.1)

def complementLetter : Char := Char.ofNat 256
def outputLetter : Char := Char.ofNat 257

def cutForms : List OptionForm :=
  [setting 'd' ["delimiter"], setting 'f' ["fields"], setting 'c' ["characters"],
   setting 'b' ["bytes"], flag 's' ["only-delimited"], flag 'n' [], flag 'z' ["zero-terminated"],
   flag complementLetter ["complement"], setting outputLetter ["output-delimiter"]]

/-- What is wrong with the options of a call. -/
def cutFault? (a : Arguments) : Option String :=
  let lists := a.options.filter fun o => "bcf".toList.contains o.1
  if 1 < lists.length then some "only one list may be specified"
  else if a.options.any fun o => o.1 == 'd' && 1 < o.2.length then
    some "the delimiter must be a single character"
  else if lists.isEmpty then some "you must specify a list of bytes, characters, or fields"
  else if !a.has 'f' && a.has 'd' then
    some "an input delimiter may be specified only when operating on fields"
  else if !a.has 'f' && a.has 's' then
    some "suppressing non-delimited lines makes sense\n\tonly when operating on fields"
  else none

def cut : Utility := withOptions cutForms fun name a => do
  match cutFault? a with
  | some fault => misused name fault.toList 1
  | none =>
    let list := ((a.value? 'f').or ((a.value? 'c').or (a.value? 'b'))).getD []
    match rangesOf (a.has complementLetter) list with
    | .error fault => misused name (fault.message (a.has 'f')) 1
    | .ok ranges =>
      let sep := match a.value? 'd' with
        | some (c :: _) => c
        | some [] => '\x00'
        | none => '\t'
      let ending := if a.has 'z' then '\x00' else '\n'
      let between := match a.value? outputLetter with
        | some [] => ['\x00']
        | some s => s
        | none => if a.has 'f' then [sep] else []
      let line (s : Bytes) : Bytes :=
        if a.has 'f' then
          if s.contains sep then
            Bytes.join between (fieldsIn ranges (Bytes.splitAt sep s)) ++ [ending]
          else if a.has 's' then [] else s ++ [ending]
        else bytesIn between ranges s ++ [ending]
      forOperands name a.operands fun _ content =>
        write 1 ((piecesAt ending content).flatMap line)

/-! ### `paste` -/

/-- The separators that a list names, of which one may be nothing; there is none if the list ends
in a backslash. -/
def separators? : Bytes → Option (List Bytes)
  | [] => some []
  | ['\\'] => none
  | '\\' :: c :: r =>
    let sep := match c with
      | '0' => []
      | 'b' => ['\x08']
      | 'f' => ['\x0c']
      | 'n' => ['\n']
      | 'r' => ['\r']
      | 't' => ['\t']
      | 'v' => ['\x0b']
      | c => [c]
    (separators? r).map (sep :: ·)
  | c :: r => (separators? r).map ([c] :: ·)

/-- Texts with separators between them, which are used in turn. -/
def joinWith (seps : List Bytes) : List Bytes → Bytes
  | [] => []
  | first :: rest =>
    first ++ (rest.zipIdx.flatMap fun (s, i) => seps.getD (i % seps.length) [] ++ s)

/-- The lines of columns side by side; a missing line is empty. -/
def rows : Nat → List (List Bytes) → List (List Bytes)
  | 0, _ => []
  | fuel + 1, columns =>
    if columns.all List.isEmpty then []
    else columns.map (·.headD []) :: rows fuel (columns.map List.tail)

/-- The lines of the input dealt out to those that read it in turn. -/
def dealt (count i : Nat) (lines : List Bytes) : List Bytes :=
  (lines.zipIdx.filter fun l => l.2 % count == i).map (·.1)

/-- The lines of the operands from a number of a dash on, all of which share the input; nothing of
a folder. The second result tells that there was one; there is none if an operand cannot be
opened. -/
def columns (name : Bytes) (ending : Char) (dashes : Nat) (input : List Bytes) :
    Nat → List Bytes → Shell (Option (List (List Bytes) × Bool))
  | _, [] => return some ([], false)
  | i, ['-'] :: rest => do
    return (← columns name ending dashes input (i + 1) rest).map fun (cs, bad) =>
      (dealt dashes i input :: cs, bad)
  | i, path :: rest => do
    match ← readOperand path with
    | .ok content =>
      return (← columns name ending dashes input i rest).map fun (cs, bad) =>
        (piecesAt ending content :: cs, bad)
    | .error e =>
      fileError name path e
      if e = .isFolder then
        return (← columns name ending dashes input i rest).map fun (cs, _) => ([] :: cs, true)
      return none

def paste : Utility :=
  withOptions [flag 's' ["serial"], setting 'd' ["delimiters"], flag 'z' ["zero-terminated"]]
    fun name a => do
      let list := (a.value? 'd').getD ['\t']
      match separators? (if list.isEmpty then ['\\', '0'] else list) with
      | none =>
        utilityError name ("delimiter list ends with an unescaped backslash: ".toList ++ list)
        return 1
      | some seps =>
        let ending := if a.has 'z' then '\x00' else '\n'
        let operands := if a.operands.isEmpty then [['-']] else a.operands
        if a.has 's' then
          forOperands name operands fun _ content =>
            write 1 (joinWith seps (piecesAt ending content) ++ [ending])
        else
          let dashes := operands.count ['-']
          let input ← if dashes = 0 then pure (.ok []) else readInput
          if let .error e := input then fileError name ['-'] e
          let unread := input.toOption.isNone
          let input := piecesAt ending (input.toOption.getD [])
          match ← columns name ending dashes input 0 operands with
          | none => return 1
          | some (columns, bad) =>
            let most := (columns.map List.length).foldl max 0
            write 1 ((rows (most + 1) columns).flatMap fun row => joinWith seps row ++ [ending])
            return if bad || unread then 1 else 0

end SvgSkeleton.Shell.Columns
